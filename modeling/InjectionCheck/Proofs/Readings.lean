import InjectionCheck.Grammar.Types
import Mathlib.Data.List.Forall2

/-!
# Rules that read given tokens

What a rule does depends on the kinds of the tokens ahead, and for a rule that takes apart what
was written with known tokens it can be said what it gives, and in front of which tokens it stops
(`Outcome.Gives`). A rule that reads the tokens of a part in front of each of certain marks
(`Reads`) can be used where parts stand in a row with marks between them (`gives_elements`).
-/

set_option autoImplicit false

namespace InjectionCheck

/-! ## Tokens ahead -/

namespace Cursor

/-- The kinds of the tokens that are not passed. -/
def kinds (c : Cursor) : List Kind := c.ahead.map Token.kind

variable {c : Cursor} {kind : Kind} {rest : List Kind}

theorem next?_of_kinds (ahead : c.kinds = kind :: rest) :
    ∃ past : c.Past, c.next? = some past ∧ past.token.kind = kind ∧ past.rest.kinds = rest := by
  obtain ⟨token, tokens, same, rfl, rfl⟩ := List.map_eq_cons_iff.1 ahead
  unfold next?
  split
  · next none => rw [none] at same; cases same
  · next token' tokens' same' =>
      rw [same] at same'
      cases same'
      exact ⟨_, rfl, rfl, rfl⟩

theorem next?_of_ended (ended : c.kinds = []) : c.next? = none := by
  have ended : c.ahead = [] := List.map_eq_nil_iff.1 ended
  obtain ⟨behind, tokens, stop⟩ := c
  cases ended
  rfl

theorem ahead_of_next? {past : c.Past} (isNext : c.next? = some past) :
    c.ahead = past.token :: past.rest.ahead := by
  unfold next? at isNext
  split at isNext
  · cases isNext
  · next token tokens same =>
      cases isNext
      exact same

theorem kinds_of_next? {past : c.Past} (isNext : c.next? = some past) :
    c.kinds = past.token.kind :: past.rest.kinds :=
  congrArg (List.map Token.kind) (ahead_of_next? isNext)

theorem kind?_of_kinds (ahead : c.kinds = kind :: rest) : c.kind? = some kind := by
  rw [kind?, ← List.head?_map]
  exact (congrArg List.head? ahead).trans rfl

theorem peek?_eq (c : Cursor) (distance : Nat) : c.peek? distance = c.kinds[distance]? := by
  rw [peek?, kinds, List.getElem?_map]

theorem atEnd_of_kinds (ahead : c.kinds = kind :: rest) : c.atEnd = false := by
  obtain ⟨token, tokens, same, _⟩ := List.map_eq_cons_iff.1 ahead
  rw [atEnd, same]
  rfl

theorem seesMark_eq (ahead : c.kinds = kind :: rest) (mark : Mark) :
    c.seesMark mark = decide (kind = .mark mark) := by
  rw [seesMark, kind?_of_kinds ahead]
  simp

theorem nextIf?_of_kinds {test : Kind → Bool} (ahead : c.kinds = kind :: rest)
    (holds : test kind = true) :
    ∃ past : c.Past, c.nextIf? test = some past ∧ past.token.kind = kind ∧
      past.rest.kinds = rest := by
  obtain ⟨past, isNext, rfl, left⟩ := next?_of_kinds ahead
  exact ⟨past, by simp [nextIf?, isNext, holds], rfl, left⟩

theorem nextIf?_eq_none {test : Kind → Bool} (ahead : c.kinds = kind :: rest)
    (fails : test kind = false) : c.nextIf? test = none := by
  obtain ⟨past, isNext, rfl, _⟩ := next?_of_kinds ahead
  simp [nextIf?, isNext, fails]

theorem next?_of_nextIf? {test : Kind → Bool} {past : c.Past}
    (found : c.nextIf? test = some past) :
    c.next? = some past ∧ test past.token.kind = true := by
  unfold nextIf? at found
  split at found
  · next past' isNext =>
      split at found
      · next holds =>
          cases found
          exact ⟨isNext, holds⟩
      · cases found
  · cases found

theorem nextIf?_of_ended (ended : c.kinds = []) (test : Kind → Bool) : c.nextIf? test = none := by
  rw [nextIf?, next?_of_ended ended]

theorem mark?_of_kinds {mark : Mark} (ahead : c.kinds = .mark mark :: rest) :
    ∃ past : c.Past, c.mark? mark = some past ∧ past.rest.kinds = rest := by
  obtain ⟨past, isNext, _, left⟩ :=
    @nextIf?_of_kinds c _ _ (· = .mark mark) ahead (decide_eq_true rfl)
  exact ⟨past, isNext, left⟩

theorem mark?_eq_none {mark : Mark} (ahead : c.kinds = kind :: rest) (other : kind ≠ .mark mark) :
    c.mark? mark = none :=
  nextIf?_eq_none ahead (decide_eq_false other)

theorem keyword?_eq_none {word : Keyword} (ahead : c.kinds = kind :: rest)
    (other : kind ≠ .keyword word) : c.keyword? word = none :=
  nextIf?_eq_none ahead (decide_eq_false other)

theorem name?_eq_none {text : String} (ahead : c.kinds = kind :: rest)
    (other : kind ≠ .name text) : c.name? text = none :=
  nextIf?_eq_none ahead (decide_eq_false other)

end Cursor

/-! ## What a rule gives -/

/-- A rule succeeds with a value that is right, and stops in front of tokens of some kinds. -/
def Outcome.Gives {α : Type} {moves : Bool} {c : Cursor} (outcome : Outcome moves c α)
    (right : α → Prop) (left : List Kind) : Prop :=
  ∃ value d, outcome.stopped = ⟨.ok value, d⟩ ∧ right value ∧ d.kinds = left

theorem Outcome.exists_gives {α : Type} {moves : Bool} {c : Cursor} (outcome : Outcome moves c α)
    (left : List Kind) (isOk : outcome.result.isOk = true) (stops : outcome.rest.kinds = left) :
    ∃ value, outcome.Gives (· = value) left := by
  obtain ⟨⟨result, d⟩, reaches, moved⟩ := outcome
  cases result with
  | ok value => exact ⟨value, value, d, rfl, rfl, stops⟩
  | error error => cases isOk

namespace Outcome.Gives

variable {α β : Type} {moves : Bool} {c : Cursor} {right : α → Prop} {right' : β → Prop}
  {left left' : List Kind}

theorem mono {outcome : Outcome moves c α} (gives : outcome.Gives right left)
    {right' : α → Prop} (weaker : ∀ value, right value → right' value) :
    outcome.Gives right' left := by
  obtain ⟨value, d, same, isRight, ahead⟩ := gives
  exact ⟨value, d, same, weaker value isRight, ahead⟩

/-- Only what the rule gives and where it stops matters. -/
theorem congr {moves' : Bool} {d : Cursor} {outcome : Outcome moves c α}
    {whole : Outcome moves' d α} (gives : outcome.Gives right left)
    (same : whole.stopped = outcome.stopped) : whole.Gives right left := by
  obtain ⟨value, d, succeeded, isRight, ahead⟩ := gives
  exact ⟨value, d, same.trans succeeded, isRight, ahead⟩

theorem ok {value : α} (isRight : right value) (ahead : c.kinds = left) :
    (Outcome.ok value : Outcome false c α).Gives right left :=
  ⟨value, c, rfl, isRight, ahead⟩

theorem lax {outcome : Outcome moves c α} (gives : outcome.Gives right left) :
    outcome.lax.Gives right left := gives

theorem go {past : c.Past} {outcome : Outcome moves past.rest α}
    (gives : outcome.Gives right left) : (past.go outcome).Gives right left := gives

theorem bind {outcome : Outcome false c α}
    {next : (value : α) → (d : Cursor) → d.remaining ≤ c.remaining → Outcome moves d β}
    (gives : outcome.Gives right left)
    (then_ : ∀ value d less, right value → d.kinds = left →
      (next value d less).Gives right' left') :
    (outcome.bind next).Gives right' left' := by
  obtain ⟨⟨result, d⟩, reaches, moved⟩ := outcome
  obtain ⟨value, d, same, isRight, ahead⟩ := gives
  cases same
  exact then_ value d reaches.remaining_le isRight ahead

theorem andThen {outcome : Outcome true c α}
    {next : (value : α) → (d : Cursor) → d.remaining < c.remaining → Outcome moves d β}
    (gives : outcome.Gives right left)
    (then_ : ∀ value d less, right value → d.kinds = left →
      (next value d less).Gives right' left') :
    (outcome.andThen next).Gives right' left' := by
  obtain ⟨⟨result, d⟩, reaches, moved⟩ := outcome
  obtain ⟨value, d, same, isRight, ahead⟩ := gives
  cases same
  exact then_ value d (less_of_moved moved) isRight ahead

theorem map {outcome : Outcome moves c α} {change : α → β} (gives : outcome.Gives right left)
    (then_ : ∀ value, right value → right' (change value)) :
    (outcome.map change).Gives right' left := by
  obtain ⟨⟨result, d⟩, reaches, moved⟩ := outcome
  obtain ⟨value, d, same, isRight, ahead⟩ := gives
  cases same
  exact ⟨change value, d, rfl, then_ value isRight, ahead⟩

theorem mapAt {outcome : Outcome moves c α} {change : α → Cursor → β}
    (gives : outcome.Gives right left)
    (then_ : ∀ value d, right value → right' (change value d)) :
    (outcome.mapAt change).Gives right' left := by
  obtain ⟨⟨result, d⟩, reaches, moved⟩ := outcome
  obtain ⟨value, d, same, isRight, ahead⟩ := gives
  cases same
  exact ⟨change value d, d, rfl, then_ value d isRight, ahead⟩

theorem mapError {outcome : Outcome moves c α} {change : ParseError → ParseError}
    (gives : outcome.Gives right left) : (outcome.mapError change).Gives right left := by
  obtain ⟨⟨result, d⟩, reaches, moved⟩ := outcome
  obtain ⟨value, d, same, isRight, ahead⟩ := gives
  cases same
  exact ⟨value, d, rfl, isRight, ahead⟩

end Outcome.Gives

/-! ## Single tokens -/

namespace Cursor

variable {c : Cursor} {kind : Kind} {rest : List Kind} {mark : Mark}

theorem gives_expectMark (ahead : c.kinds = .mark mark :: rest) :
    (c.expectMark mark).Gives (fun _ => True) rest := by
  obtain ⟨past, isNext, isMark, left⟩ := next?_of_kinds ahead
  have agrees : past.token.kind.agrees (.mark mark) = true := by
    rw [isMark]
    exact decide_eq_true rfl
  simp only [expectMark, expect, isNext, agrees, if_true]
  exact .go (.ok trivial left)

theorem gives_expectName {text : String} (ahead : c.kinds = .name text :: rest) :
    c.expectName.Gives (·.name = text) rest := by
  obtain ⟨past, isNext, isName, left⟩ := next?_of_kinds ahead
  simp only [expectName, isNext]
  split
  · next text' isName' =>
      rw [isName] at isName'
      cases isName'
      exact .go (.ok rfl left)
  · next other => exact absurd isName (other text)

theorem gives_optionalMark (ahead : c.kinds = .mark mark :: rest) :
    (c.optionalMark mark).Gives (· = true) rest := by
  obtain ⟨past, isNext, left⟩ := mark?_of_kinds ahead
  simp only [mark?] at isNext
  simp only [optionalMark, optional, isNext]
  exact .lax (.go (.ok rfl left))

theorem gives_optionalMark_none (ahead : c.kinds = kind :: rest) (other : kind ≠ .mark mark) :
    (c.optionalMark mark).Gives (· = false) (kind :: rest) := by
  have none := mark?_eq_none ahead other
  simp only [mark?] at none
  simp only [optionalMark, optional, none]
  exact .ok rfl ahead

theorem gives_skipAnglesIfAny (ahead : c.kinds = kind :: rest) (other : kind ≠ .mark .lt) :
    c.skipAnglesIfAny.Gives (fun _ => True) (kind :: rest) := by
  rw [skipAnglesIfAny, seesMark_eq ahead, decide_eq_false other, if_neg Bool.false_ne_true]
  exact .ok trivial ahead

/-- A name that something follows that ends it is no modifier. -/
theorem modifies_of_kinds {next : Kind} (ahead : c.kinds = kind :: next :: rest)
    (ends : next.endsName = true) : c.modifies = false := by
  simp [modifies, peek?_eq, ahead, ends]

end Cursor

/-! ## Parts in a row -/

/-- A rule reads tokens of some kinds in front of certain marks: it succeeds with a value that is
right, and stops in front of the mark. -/
def Reads {α : Type} {moves : Bool} {allowed : Cursor → Prop} (ends : Mark → Prop)
    (rule : (c : Cursor) → allowed c → Outcome moves c α) (kinds : List Kind)
    (right : α → Prop) : Prop :=
  ∀ (c : Cursor) (inside : allowed c) (sign : Mark) (rest : List Kind), ends sign →
    c.kinds = kinds ++ .mark sign :: rest → (rule c inside).Gives right (.mark sign :: rest)

/-- Tokens begin with one of another kind. -/
def BeginsOff (kind : Kind) (kinds : List Kind) : Prop :=
  ∃ first others, kinds = first :: others ∧ first ≠ kind

namespace Rules

variable {limit : Cursor} {α ι : Type} {opening : Opening} {closing : Mark}
  {missing : ParseError → ParseError}
  {element : (c : Cursor) → c.remaining < limit.remaining → Outcome true c α}

/-- **Elements with commas between them are read one after another.** -/
theorem gives_elements {spell : ι → List Kind} {right : ι → α → Prop} {parts : List ι}
    (reads : ∀ part ∈ parts,
      Reads (fun sign => sign = .comma ∨ sign = closing) element (spell part) (right part))
    (begins : ∀ part ∈ parts, BeginsOff (.mark closing) (spell part))
    {earlier : List α} {c : Cursor}
    {inside : c.remaining < limit.remaining} {rest : List Kind}
    (ahead : c.kinds = [.mark .comma].intercalate (parts.map spell) ++ .mark closing :: rest)
    (notComma : closing ≠ .comma) :
    (elements opening closing missing element earlier c inside).Gives
      (fun values => ∃ others, values = earlier.reverse ++ others ∧
        List.Forall₂ right parts others) rest := by
  induction parts generalizing earlier c with
  | nil =>
      obtain ⟨past, isNext, left⟩ := Cursor.mark?_of_kinds ahead
      rw [elements, isNext]
      exact .go (.ok ⟨[], (List.append_nil _).symm, .nil⟩ left)
  | cons part parts ih =>
      obtain ⟨first, others, same, other⟩ := begins part List.mem_cons_self
      have starts : ∃ following, c.kinds = first :: following := by
        cases parts <;> simp [ahead, same]
      obtain ⟨following, starts⟩ := starts
      rw [elements, Cursor.mark?_eq_none starts other]
      dsimp only
      rw [Cursor.atEnd_of_kinds starts, if_neg Bool.false_ne_true]
      have readsPart := reads part List.mem_cons_self c inside
      cases parts with
      | nil =>
          refine (readsPart closing rest (.inr rfl) (by simpa using ahead)).andThen
            fun value d less isRight left => ?_
          rw [Cursor.mark?_eq_none left (by simpa using notComma)]
          exact (Cursor.gives_expectMark left).mapError.map fun _ _ =>
            ⟨[value], by rw [List.reverse_cons], .cons isRight .nil⟩
      | cons second parts =>
          refine (readsPart .comma _ (.inl rfl) (by
            rw [ahead, List.map_cons, List.map_cons, List.intercalate_cons_cons,
              List.append_assoc, List.append_assoc]
            rfl)).andThen fun value d less isRight left => ?_
          obtain ⟨past, isNext, left⟩ := Cursor.mark?_of_kinds left
          rw [isNext]
          refine .go ((ih (fun part inside => reads part (List.mem_cons_of_mem _ inside))
            (fun part inside => begins part (List.mem_cons_of_mem _ inside)) left).mono ?_)
          rintro _ ⟨others, rfl, all⟩
          exact ⟨value :: others, by rw [List.reverse_cons, List.append_assoc]; rfl,
            .cons isRight all⟩

/-- There are no further members where there is no sign. -/
theorem gives_furtherMembers_none {sign : Mark}
    {member : (c : Cursor) → c.remaining ≤ limit.remaining → Outcome true c TypeExpression}
    {earlier : List TypeExpression} {c : Cursor} {inside : c.remaining ≤ limit.remaining}
    {kind : Kind} {rest : List Kind} (ahead : c.kinds = kind :: rest) (other : kind ≠ .mark sign) :
    (furtherMembers sign member earlier c inside).Gives (· = earlier.reverse) (kind :: rest) := by
  rw [furtherMembers, Cursor.mark?_eq_none ahead other]
  exact .ok rfl ahead

/-- Further members with a sign in front of each are read one after another. -/
theorem gives_furtherMembers {spell : ι → List Kind} {right : ι → TypeExpression → Prop}
    {sign closes : Mark} {parts : List ι}
    {member : (c : Cursor) → c.remaining ≤ limit.remaining → Outcome true c TypeExpression}
    (reads : ∀ part ∈ parts,
      Reads (fun mark => mark = sign ∨ mark = closes) member (spell part) (right part))
    (other : closes ≠ sign) {earlier : List TypeExpression} {c : Cursor}
    {inside : c.remaining ≤ limit.remaining} {rest : List Kind}
    (ahead : c.kinds =
      parts.flatMap (fun part => .mark sign :: spell part) ++ .mark closes :: rest) :
    (furtherMembers sign member earlier c inside).Gives
      (fun members => ∃ others, members = earlier.reverse ++ others ∧
        List.Forall₂ right parts others) (.mark closes :: rest) := by
  induction parts generalizing earlier c with
  | nil =>
      refine (gives_furtherMembers_none ahead (by simpa using other)).mono ?_
      exact fun members same => ⟨[], same.trans (List.append_nil _).symm, .nil⟩
  | cons part parts ih =>
      rw [List.flatMap_cons, List.append_assoc, List.cons_append] at ahead
      obtain ⟨past, isNext, left⟩ := Cursor.mark?_of_kinds ahead
      rw [furtherMembers, isNext]
      have readsPart := reads part List.mem_cons_self past.rest (past.le_of_le inside)
      have others : ∃ mark tail, (mark = sign ∨ mark = closes) ∧
          parts.flatMap (fun part => .mark sign :: spell part) ++ .mark closes :: rest =
            .mark mark :: tail := by
        cases parts with
        | nil => exact ⟨closes, rest, .inr rfl, rfl⟩
        | cons second parts => exact ⟨sign, _, .inl rfl, rfl⟩
      obtain ⟨mark, tail, isEnd, same⟩ := others
      refine .lax (.go ((readsPart mark tail isEnd (left.trans (by rw [same]))).andThen
        fun value d less isRight left => ?_))
      refine (ih (fun part inside => reads part (List.mem_cons_of_mem _ inside))
        (left.trans same.symm)).mono ?_
      rintro _ ⟨others, rfl, all⟩
      exact ⟨value :: others, by rw [List.reverse_cons, List.append_assoc]; rfl,
        .cons isRight all⟩

theorem gives_skipSeparators {c : Cursor} {separators rest : List Kind} {kind : Kind}
    (all : ∀ separator ∈ separators, separator = .mark .semicolon)
    (ahead : c.kinds = separators ++ kind :: rest)
    (other : kind ≠ .mark .semicolon ∧ kind ≠ .mark .comma) :
    (skipSeparators c).Gives (fun _ => True) (kind :: rest) := by
  induction separators generalizing c with
  | nil =>
      rw [skipSeparators, Cursor.nextIf?_eq_none ahead (by simp [other])]
      exact .ok trivial ahead
  | cons separator separators ih =>
      obtain ⟨isSeparator, all⟩ := List.forall_mem_cons.1 all
      obtain ⟨past, isNext, _, left⟩ := @Cursor.nextIf?_of_kinds c _ _
        (fun kind => kind = .mark .semicolon || kind = .mark .comma) ahead (by simp [isSeparator])
      rw [skipSeparators, isNext]
      exact .lax (.go (ih all left))

/-- **Members with semicolons between them are read up to and past the closing brace.** -/
theorem gives_typeMembersAfter {spell : ι → List Kind} {right : ι → TypeMember → Prop}
    {rules : Rules limit} {parts : List ι}
    (reads : ∀ part ∈ parts, Reads (fun mark => mark = .semicolon ∨ mark = .rbrace)
      rules.typeMember (spell part) fun member => ∃ one, member = some one ∧ right part one)
    (begins : ∀ part ∈ parts, ∃ name others, spell part = .name name :: others)
    {earlier : List TypeMember} {c : Cursor} {inside : c.remaining ≤ limit.remaining}
    {separators rest : List Kind} (all : ∀ separator ∈ separators, separator = .mark .semicolon)
    (ahead : c.kinds = separators ++
      ([.mark .semicolon].intercalate (parts.map spell) ++ .mark .rbrace :: rest)) :
    (rules.typeMembersAfter opening earlier c inside).Gives
      (fun members => ∃ others, members = earlier.reverse ++ others ∧
        List.Forall₂ right parts others) rest := by
  induction parts generalizing earlier c separators with
  | nil =>
      rw [typeMembersAfter]
      refine (gives_skipSeparators all ahead ⟨nofun, nofun⟩).bind fun _ d less _ left => ?_
      obtain ⟨past, isNext, left⟩ := Cursor.mark?_of_kinds left
      rw [isNext]
      exact .go (.ok ⟨[], (List.append_nil _).symm, .nil⟩ left)
  | cons part parts ih =>
      obtain ⟨name, others, same⟩ := begins part List.mem_cons_self
      -- What follows the member is a semicolon and more members, or the closing brace.
      obtain ⟨mark, tail, separators', isEnd, all', whole, behind⟩ : ∃ mark tail separators',
          (mark = .semicolon ∨ mark = .rbrace) ∧
          (∀ separator ∈ separators', separator = Kind.mark .semicolon) ∧
          [.mark .semicolon].intercalate ((part :: parts).map spell) ++ .mark .rbrace :: rest =
            .name name :: (others ++ .mark mark :: tail) ∧
          Kind.mark mark :: tail = separators' ++
            ([.mark .semicolon].intercalate (parts.map spell) ++ .mark .rbrace :: rest) := by
        cases parts with
        | nil => exact ⟨.rbrace, rest, [], .inr rfl, nofun, by simp [same], rfl⟩
        | cons second parts =>
            exact ⟨.semicolon, _, [.mark .semicolon], .inl rfl, by simp, by
              rw [List.map_cons, List.map_cons, List.intercalate_cons_cons, same,
                List.append_assoc, List.append_assoc]
              rfl, rfl⟩
      rw [whole] at ahead
      rw [typeMembersAfter]
      refine (gives_skipSeparators all ahead ⟨nofun, nofun⟩).bind fun _ d less _ left => ?_
      rw [Cursor.mark?_eq_none left nofun]
      dsimp only
      rw [Cursor.atEnd_of_kinds left, if_neg Bool.false_ne_true]
      refine (reads part List.mem_cons_self d (Nat.le_trans less inside) mark tail isEnd
        (left.trans (by rw [same]; rfl))).andThen fun member e less isMember left => .lax ?_
      obtain ⟨one, rfl, isRight⟩ := isMember
      refine (ih (fun part inside => reads part (List.mem_cons_of_mem _ inside))
        (fun part inside => begins part (List.mem_cons_of_mem _ inside)) all'
        (left.trans behind)).mono ?_
      rintro _ ⟨others, rfl, all⟩
      exact ⟨one :: others, by simp, .cons isRight all⟩

end Rules

/-! ## Looking ahead -/

namespace Lookahead

/-- The search for a closing bracket passes all tokens of some kinds, since their brackets are
closed. -/
def Closed (kinds : List Kind) : Prop :=
  ∀ (tokens rest : List Token) (depth passed : Nat), tokens.map Token.kind = kinds →
    closeIndex?.go (tokens ++ rest) (depth + 1) passed =
      closeIndex?.go rest (depth + 1) (passed + tokens.length)

theorem Closed.nil : Closed [] := by
  intro tokens rest depth passed same
  rw [List.map_eq_nil_iff.1 same]
  rfl

theorem Closed.append {first second : List Kind} (closed : Closed first) (closed' : Closed second) :
    Closed (first ++ second) := by
  intro tokens rest depth passed same
  obtain ⟨tokens, tokens', rfl, same, same'⟩ := List.map_eq_append_iff.1 same
  rw [List.append_assoc, closed tokens _ depth passed same, closed' tokens' rest depth _ same',
    List.length_append, Nat.add_assoc]

theorem Closed.single {kind : Kind} (opens : kind.opens? = none) (closes : kind.closes? = none) :
    Closed [kind] := by
  intro tokens rest depth passed same
  obtain ⟨token, tokens, rfl, rfl, none⟩ := List.map_eq_cons_iff.1 same
  rw [List.map_eq_nil_iff.1 none]
  simp [closeIndex?.go, opens, closes]

theorem Closed.group {opening closing : Kind} {kinds : List Kind}
    (opens : opening.opens?.isSome = true) (closes : closing.closes?.isSome = true)
    (noOpening : closing.opens? = none) (closed : Closed kinds) :
    Closed ([opening] ++ kinds ++ [closing]) := by
  intro tokens rest depth passed same
  obtain ⟨front, last, rfl, isFront, isLast⟩ := List.map_eq_append_iff.1 same
  obtain ⟨first, inner, rfl, rfl, isInner⟩ := List.map_eq_cons_iff.1 isFront
  obtain ⟨token, tail, rfl, rfl, none⟩ := List.map_eq_cons_iff.1 isLast
  rw [List.map_eq_nil_iff.1 none, List.append_assoc, List.cons_append, closeIndex?.go.eq_def]
  dsimp only
  rw [if_pos opens, closed inner _ _ _ isInner, List.singleton_append, closeIndex?.go.eq_def]
  simp only [noOpening, closes, Option.isSome_none, Bool.false_eq_true, if_false, if_true,
    List.length_append, List.length_cons, List.length_nil]
  congr 1
  omega

theorem Closed.intercalate {sign : Kind} (opens : sign.opens? = none) (closes : sign.closes? = none)
    {kindss : List (List Kind)} (all : ∀ kinds ∈ kindss, Closed kinds) :
    Closed ([sign].intercalate kindss) := by
  induction kindss with
  | nil => exact .nil
  | cons kinds kindss ih =>
      cases kindss with
      | nil =>
          rw [List.intercalate_singleton]
          exact all kinds List.mem_cons_self
      | cons second kindss =>
          rw [List.intercalate_cons_cons]
          exact ((all kinds List.mem_cons_self).append (.single opens closes)).append
            (ih fun kinds inside => all kinds (List.mem_cons_of_mem _ inside))

/-- A function type starts at a group if an arrow follows the group. -/
theorem startsFunctionType_of_group {tokens : List Token} {kinds rest : List Kind} {kind : Kind}
    (closed : Closed kinds)
    (same : tokens.map Token.kind = .mark .lparen :: (kinds ++ .mark .rparen :: kind :: rest)) :
    startsFunctionType tokens = decide (kind = .mark .arrow) := by
  obtain ⟨first, tokens, rfl, isFirst, same⟩ := List.map_eq_cons_iff.1 same
  obtain ⟨inner, tail, rfl, sameInner, isTail⟩ := List.map_eq_append_iff.1 same
  obtain ⟨last, tail, rfl, isLast, isTail⟩ := List.map_eq_cons_iff.1 isTail
  obtain ⟨token, tail, rfl, rfl, isTail⟩ := List.map_eq_cons_iff.1 isTail
  have index : closeIndex? (first :: (inner ++ last :: token :: tail)) = some (1 + inner.length) := by
    rw [closeIndex?, closeIndex?.go, isFirst]
    simp only [Kind.opens?, Bracket.openedBy?, Option.isSome_some, if_true, Nat.zero_add]
    rw [closed inner _ 0 1 sameInner, closeIndex?.go, isLast]
    rfl
  rw [startsFunctionType, index]
  have place : (first :: (inner ++ last :: token :: tail))[1 + inner.length + 1]? = some token := by
    rw [List.getElem?_cons_succ, List.getElem?_append_right (by omega)]
    simp
  simp [kindAt?, place]

end Lookahead

end InjectionCheck
