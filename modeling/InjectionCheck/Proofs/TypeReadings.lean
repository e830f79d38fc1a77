import InjectionCheck.Grammar.SourceUnit
import InjectionCheck.Proofs.Readings
import InjectionCheck.Proofs.Spellings

/-!
# Rules that read written types

The rules for types read the tokens that types are written with, form by form, given that they
read the parts. Parentheses stand wherever a rule would go on otherwise, which is told by the marks
behind a type (`Mark.endsType`, `Mark.endsPrimary`). The rules that look ahead are not misled: a
group is followed by an arrow only where it holds parameters, and a name is followed by a mark,
so that it is no operator, no modifier, no label and no subject of a predicate (`BeginsType`).
-/

set_option autoImplicit false

namespace InjectionCheck

/-! ## Marks behind types -/

/-- A mark behind a whole type. -/
def Mark.endsType : Mark → Bool
  | .comma | .rparen | .rbracket | .rbrace | .semicolon => true
  | _ => false

/-- A mark behind a member of a union. -/
def Mark.endsMember (sign : Mark) : Bool := sign.endsType || sign = .pipe

/-- A mark behind a type without `&` and `|` at its top. -/
def Mark.endsOperand (sign : Mark) : Bool := sign.endsMember || sign = .amp

/-- A mark behind a type without suffixes. -/
def Mark.endsPrimary (sign : Mark) : Bool := sign.endsOperand || sign = .lbracket

theorem Mark.endsMember_of_endsType {sign : Mark} (ends : sign.endsType = true) :
    sign.endsMember = true := by
  rw [endsMember, ends, Bool.true_or]

theorem Mark.endsOperand_of_endsMember {sign : Mark} (ends : sign.endsMember = true) :
    sign.endsOperand = true := by
  rw [endsOperand, ends, Bool.true_or]

theorem Mark.endsPrimary_of_endsOperand {sign : Mark} (ends : sign.endsOperand = true) :
    sign.endsPrimary = true := by
  rw [endsPrimary, ends, Bool.true_or]

theorem Mark.endsOperand_of_endsType {sign : Mark} (ends : sign.endsType = true) :
    sign.endsOperand = true :=
  endsOperand_of_endsMember (endsMember_of_endsType ends)

/-- A mark that ends something is none that does not. -/
theorem Mark.ne_of_ends {ends : Mark → Bool} {sign other : Mark} (isEnd : ends sign = true)
    (noEnd : ends other = false) : Kind.mark sign ≠ .mark other := by
  rintro ⟨⟩
  rw [isEnd] at noEnd
  cases noEnd

/-! ## Tokens in front of types -/

/-- A token with which a written type may begin. -/
def Kind.startsWrittenType : Kind → Bool
  | .name _ | .string _ | .keyword .null_ | .keyword .void_ | .mark .lparen | .mark .lbracket
  | .mark .lbrace => true
  | _ => false

/-- The next token, if there is one, is a mark behind a type without suffixes. -/
def EndsPrimary (kinds : List Kind) : Prop :=
  ∀ kind ∈ kinds.head?, ∃ sign : Mark, kind = .mark sign ∧ sign.endsPrimary = true

theorem EndsPrimary.nil : EndsPrimary [] := by simp [EndsPrimary]

/-- Tokens begin like a written type: a name at their start is no operator, and a mark comes
behind it. -/
def BeginsType (kinds : List Kind) : Prop :=
  ∃ first others, kinds = first :: others ∧ first.startsWrittenType = true ∧
    ∀ name, first = .name name → (name ≠ "keyof" ∧ name ≠ "readonly") ∧ EndsPrimary others

theorem EndsPrimary.append {kinds more : List Kind} (ends : EndsPrimary kinds)
    (more_ : EndsPrimary more) : EndsPrimary (kinds ++ more) := by
  cases kinds with
  | nil => exact more_
  | cons kind kinds => exact ends

theorem EndsPrimary.mark {sign : Mark} {rest : List Kind} (ends : sign.endsPrimary = true) :
    EndsPrimary (.mark sign :: rest) := by
  intro kind isFirst
  cases isFirst
  exact ⟨sign, rfl, ends⟩

theorem BeginsType.append {kinds more : List Kind} (begins : BeginsType kinds)
    (more_ : EndsPrimary more) : BeginsType (kinds ++ more) := by
  obtain ⟨first, others, rfl, starts, names⟩ := begins
  exact ⟨first, others ++ more, rfl, starts, fun name isName =>
    ⟨(names name isName).1, (names name isName).2.append more_⟩⟩

theorem BeginsType.of_mark {sign : Mark} (starts : (Kind.mark sign).startsWrittenType = true)
    (others : List Kind) : BeginsType (.mark sign :: others) :=
  ⟨_, others, rfl, starts, nofun⟩

/-- A type does not begin with a mark that starts none. -/
theorem BeginsType.off {kinds : List Kind} (begins : BeginsType kinds) {kind : Kind}
    (noStart : kind.startsWrittenType = false) : BeginsOff kind kinds := by
  obtain ⟨first, others, rfl, starts, _⟩ := begins
  refine ⟨first, others, rfl, ?_⟩
  rintro rfl
  rw [starts] at noStart
  cases noStart

theorem BeginsType.intercalate {sign : Mark} (ends : sign.endsPrimary = true)
    {kindss : List (List Kind)} (nonempty : kindss ≠ [])
    (all : ∀ kinds ∈ kindss, BeginsType kinds) : BeginsType ([.mark sign].intercalate kindss) := by
  match kindss with
  | [] => exact absurd rfl nonempty
  | [kinds] =>
    rw [List.intercalate_singleton]
    exact all kinds List.mem_cons_self
  | kinds :: second :: others =>
    rw [List.intercalate_cons_cons, List.append_assoc]
    exact (all kinds List.mem_cons_self).append (.mark ends)

/-- What comes behind a name at the start of a type is a mark. -/
theorem EndsPrimary.next {c : Cursor} (ends : EndsPrimary c.kinds) {past : c.Past}
    (isNext : c.next? = some past) :
    ∃ sign : Mark, past.token.kind = .mark sign ∧ sign.endsPrimary = true :=
  ends past.token.kind (by rw [Cursor.kinds_of_next? isNext]; rfl)

theorem EndsPrimary.nextIf?_eq_none {c : Cursor} (ends : EndsPrimary c.kinds) {test : Kind → Bool}
    (fails : ∀ sign : Mark, sign.endsPrimary = true → test (.mark sign) = false) :
    c.nextIf? test = none := by
  cases isNext : c.next? with
  | none => simp [Cursor.nextIf?, isNext]
  | some past =>
      obtain ⟨sign, isMark, isEnd⟩ := ends.next isNext
      simp [Cursor.nextIf?, isNext, isMark, fails sign isEnd]

/-! ## Types with one operand -/

namespace Rules

variable {limit : Cursor} {kinds : List Kind} {right : TypeExpression → Prop}
  {rules : Rules limit}

/-- A type without operators in front of it is read by the rule for operands. -/
theorem reads_operandType {ends : Mark → Bool}
    (reads : Reads (fun sign => ends sign = true) rules.suffixedType kinds right)
    (begins : BeginsType kinds) (isEnd : ∀ sign, ends sign = true → sign.endsPrimary = true) :
    Reads (fun sign => ends sign = true) rules.operandType kinds right := by
  intro c inside sign rest signEnds ahead
  have gives := reads c inside sign rest signEnds ahead
  obtain ⟨first, others, same, starts, names⟩ := begins.append
    (.mark (isEnd sign signEnds) : EndsPrimary (.mark sign :: rest))
  obtain ⟨past, isNext, rfl, rfl⟩ := Cursor.next?_of_kinds (ahead.trans same)
  rw [operandType, isNext]
  dsimp only
  split
  · next word => exact absurd rfl (names _ word).1.1
  · next word => exact absurd rfl (names _ word).1.2
  · next word =>
      rw [Cursor.name?, (names _ word).2.nextIf?_eq_none fun _ _ => rfl]
      exact gives
  · next word =>
      cases isSecond : past.rest.next? with
      | none => exact gives
      | some second =>
          obtain ⟨sign, isMark, _⟩ := (names _ word).2.next isSecond
          dsimp only
          split
          · next name isName => rw [isMark] at isName; cases isName
          · exact gives
  · exact gives

/-- A type without a sign in front of it and behind it is an intersection by itself. -/
theorem reads_intersectionType {ends : Mark → Bool}
    (reads : Reads (fun sign => ends sign = true) rules.operandType kinds right)
    (begins : BeginsType kinds) (notAmp : ends .amp = false) :
    Reads (fun sign => ends sign = true) rules.intersectionType kinds right := by
  intro c inside sign rest signEnds ahead
  obtain ⟨first, others, same, starts⟩ := begins.off (rfl : (Kind.mark .amp).startsWrittenType = _)
  rw [same] at ahead
  refine (Cursor.gives_optionalMark_none ahead starts).bind fun _ d less _ left => ?_
  refine (reads d _ sign rest signEnds (left.trans (by rw [same]; rfl))).andThen
    fun value e less isRight left => ?_
  refine (gives_furtherMembers_none left (Mark.ne_of_ends signEnds notAmp)).bind
    fun members f less single left => ?_
  subst single
  exact .ok isRight left

/-- A type without a sign in front of it and behind it is a union by itself. -/
theorem reads_unionType {ends : Mark → Bool}
    (reads : Reads (fun sign => ends sign = true) rules.intersectionType kinds right)
    (begins : BeginsType kinds) (notPipe : ends .pipe = false) :
    Reads (fun sign => ends sign = true) rules.unionType kinds right := by
  intro c inside sign rest signEnds ahead
  obtain ⟨first, others, same, starts⟩ :=
    begins.off (rfl : (Kind.mark .pipe).startsWrittenType = _)
  rw [same] at ahead
  refine (Cursor.gives_optionalMark_none ahead starts).bind fun leading d less noSign left => ?_
  refine (reads d _ sign rest signEnds (left.trans (by rw [same]; rfl))).andThen
    fun value e less isRight left => ?_
  refine (gives_furtherMembers_none left (Mark.ne_of_ends signEnds notPipe)).bind
    fun members f less single left => ?_
  subst single
  subst noSign
  exact .ok isRight left

/-- A union is a whole type if a mark follows it. -/
theorem reads_fullType {ends : Mark → Bool}
    (reads : Reads (fun sign => ends sign = true) rules.unionType kinds right) :
    Reads (fun sign => ends sign = true) rules.fullType kinds right := by
  intro c inside sign rest signEnds ahead
  refine (reads c inside sign rest signEnds ahead).andThen fun value d less isRight left => ?_
  rw [Cursor.keyword?_eq_none left nofun]
  exact .ok isRight left

/-- A whole type is read at every depth. -/
theorem reads_type {ends : Mark → Bool}
    (reads : ∀ limit, Reads (fun sign => ends sign = true) (all limit).unionType kinds right) :
    Reads (fun sign => ends sign = true) (all limit).type kinds right := by
  intro c inside sign rest signEnds ahead
  rw [all]
  exact reads_fullType (reads c) c _ sign rest signEnds ahead

/-! ## Types with several operands -/

section Members

variable {ι : Type} {spell : ι → List Kind} {means : ι → TypeExpression → Prop} {first second : ι}
  {others : List ι}

/-- The tokens of some parts with a sign between them, as those of the first part and of what
follows it. -/
theorem intercalate_eq (sign : Mark) :
    [Kind.mark sign].intercalate ((first :: others).map spell) =
      spell first ++ others.flatMap fun part => .mark sign :: spell part := by
  induction others generalizing first with
  | nil => simp
  | cons second others ih =>
      rw [List.map_cons, List.map_cons, List.intercalate_cons_cons, ← List.map_cons, ih]
      simp

/-- A first member, and further members with a sign in front of each. -/
theorem gives_row {sign closes : Mark}
    {member : (c : Cursor) → c.remaining ≤ limit.remaining → Outcome true c TypeExpression}
    (reads : ∀ part ∈ first :: others,
      Reads (fun mark => mark = sign ∨ mark = closes) member (spell part) (means part))
    (other : closes ≠ sign) {c : Cursor} {inside : c.remaining ≤ limit.remaining}
    {within : ∀ e : Cursor, e.remaining < c.remaining → e.remaining ≤ limit.remaining}
    {rest : List Kind}
    (ahead : c.kinds =
      [Kind.mark sign].intercalate ((first :: others).map spell) ++ .mark closes :: rest)
    {next : TypeExpression → List TypeExpression → (f : Cursor) → Outcome false f TypeExpression}
    (then_ : ∀ value members f, List.Forall₂ means (first :: others) members →
      f.kinds = .mark closes :: rest → (next value members f).Gives right (.mark closes :: rest)) :
    ((member c inside).andThen fun value e less =>
      (furtherMembers sign member [value] e (within e less)).bind fun members f _ =>
        next value members f).Gives right (.mark closes :: rest) := by
  have readsFirst := reads first List.mem_cons_self c inside
  -- What follows the first member is the sign between the members, or the mark behind them.
  obtain ⟨mark, tail, isEnd, same⟩ : ∃ mark tail, (mark = sign ∨ mark = closes) ∧
      (others.flatMap fun part => .mark sign :: spell part) ++ .mark closes :: rest =
        .mark mark :: tail := by
    cases others with
    | nil => exact ⟨closes, rest, .inr rfl, rfl⟩
    | cons second others => exact ⟨sign, _, .inl rfl, rfl⟩
  rw [intercalate_eq, List.append_assoc, same] at ahead
  refine (readsFirst mark tail isEnd ahead).andThen fun value e less isRight left => ?_
  refine (gives_furtherMembers (fun part inside => reads part (List.mem_cons_of_mem _ inside))
    other (left.trans same.symm)).bind fun members f less all left => ?_
  obtain ⟨values, rfl, all⟩ := all
  exact then_ value _ f (.cons isRight all) left

variable {ends : Mark → Bool}

/-- Operands with `&` between them are read as an intersection. -/
theorem reads_intersection
    (reads : ∀ part ∈ first :: second :: others,
      Reads (fun sign => sign.endsOperand = true) rules.operandType (spell part) (means part))
    (begins : BeginsType (spell first)) (isEnd : ∀ sign, ends sign = true → sign.endsOperand = true)
    (notAmp : ends .amp = false) :
    Reads (fun sign => ends sign = true) rules.intersectionType
      ([.mark .amp].intercalate ((first :: second :: others).map spell))
      (fun type => ∃ members span, type = ⟨.intersection members, span⟩ ∧
        List.Forall₂ means (first :: second :: others) members) := by
  intro c inside sign rest signEnds ahead
  obtain ⟨kind, tail, same, starts⟩ := begins.off (rfl : (Kind.mark .amp).startsWrittenType = _)
  have leading : c.kinds = kind :: _ := ahead.trans (by rw [intercalate_eq, same]; rfl)
  refine (Cursor.gives_optionalMark_none leading starts).bind fun _ d less _ left => ?_
  refine gives_row (fun part inside c within mark rest either => reads part inside c within mark
    rest ?_) ?_ (left.trans (leading.symm.trans ahead)) fun value members f all left => ?_
  · rcases either with rfl | rfl
    · rfl
    · exact isEnd _ signEnds
  · exact fun same => Mark.ne_of_ends signEnds notAmp (congrArg Kind.mark same)
  · have several : ¬ members.length ≤ 1 := by
      have := all.length_eq
      simp only [List.length_cons] at this
      omega
    rw [if_neg several]
    exact .ok ⟨members, _, rfl, all⟩ left

/-- Operands with `|` between them are read as a union. -/
theorem reads_union
    (reads : ∀ part ∈ first :: second :: others,
      Reads (fun sign => sign.endsMember = true) rules.intersectionType (spell part) (means part))
    (begins : BeginsType (spell first)) (isEnd : ∀ sign, ends sign = true → sign.endsMember = true)
    (notPipe : ends .pipe = false) :
    Reads (fun sign => ends sign = true) rules.unionType
      ([.mark .pipe].intercalate ((first :: second :: others).map spell))
      (fun type => ∃ members span, type = ⟨.union members, span⟩ ∧
        List.Forall₂ means (first :: second :: others) members) := by
  intro c inside sign rest signEnds ahead
  obtain ⟨kind, tail, same, starts⟩ := begins.off (rfl : (Kind.mark .pipe).startsWrittenType = _)
  have leading : c.kinds = kind :: _ := ahead.trans (by rw [intercalate_eq, same]; rfl)
  refine (Cursor.gives_optionalMark_none leading starts).bind fun _ d less _ left => ?_
  refine gives_row (fun part inside c within mark rest either => reads part inside c within mark
    rest ?_) ?_ (left.trans (leading.symm.trans ahead)) fun value members f all left => ?_
  · rcases either with rfl | rfl
    · rfl
    · exact isEnd _ signEnds
  · exact fun same => Mark.ne_of_ends signEnds notPipe (congrArg Kind.mark same)
  · have several : ¬ members.length ≤ 1 := by
      have := all.length_eq
      simp only [List.length_cons] at this
      omega
    rw [if_neg several]
    exact .ok ⟨members, _, rfl, all⟩ left

end Members

/-! ## Suffixes -/

/-- A rule for types without suffixes has read tokens, and the rule for suffixes goes on. -/
def ReadsOperand (kinds : List Kind) (right : TypeExpression → Prop) : Prop :=
  ∀ (limit c : Cursor) (inside : c.remaining ≤ limit.remaining) (sign : Mark) (rest : List Kind),
    sign.endsPrimary = true → c.kinds = kinds ++ .mark sign :: rest →
      ∃ value d, ∃ inside' : d.remaining < limit.remaining,
        ((all limit).suffixedType c inside).stopped =
          ((all limit).typeSuffixes c.span value d inside').stopped ∧
        right value ∧ d.kinds = .mark sign :: rest

theorem ReadsOperand.of_primary
    (reads : ∀ limit, Reads (fun sign => sign.endsPrimary = true) (all limit).primaryType kinds
      right) : ReadsOperand kinds right := by
  intro limit c inside sign rest ends ahead
  obtain ⟨value, d, same, isRight, left⟩ := reads limit c inside sign rest ends ahead
  rw [suffixedType]
  generalize (all limit).primaryType c inside = outcome at same
  obtain ⟨⟨result, d'⟩, reaches, moved⟩ := outcome
  cases same
  exact ⟨value, d, _, rfl, isRight, left⟩

/-- Brackets behind an operand make an array of it. -/
theorem ReadsOperand.array {element : TypeExpression → Prop} (reads : ReadsOperand kinds element)
    (right_ : ∀ value span, element value → right ⟨.array value, span⟩) :
    ReadsOperand (kinds ++ [.mark .lbracket, .mark .rbracket]) right := by
  intro limit c inside sign rest ends ahead
  obtain ⟨value, d, inside', same, isRight, left⟩ := reads limit c inside .lbracket
    (.mark .rbracket :: .mark sign :: rest) rfl (ahead.trans (by simp))
  obtain ⟨past, isOpening, left⟩ := Cursor.mark?_of_kinds left
  obtain ⟨closed, isClosing, left⟩ := Cursor.mark?_of_kinds left
  refine ⟨closed.rest.typeFrom c.span (.array value), closed.rest, ?_, ?_, right_ _ _ isRight,
    left⟩
  · exact Nat.lt_trans closed.less (Nat.lt_trans past.less inside')
  · rw [same, typeSuffixes, isOpening]
    dsimp only
    rw [isClosing]
    rfl

/-- A type without suffixes is read with none. -/
theorem reads_suffixedType {ends : Mark → Bool}
    (reads : Reads (fun sign => ends sign = true) rules.primaryType kinds right)
    (noBracket : ends .lbracket = false) :
    Reads (fun sign => ends sign = true) rules.suffixedType kinds right := by
  intro c inside sign rest signEnds ahead
  refine (reads c inside sign rest signEnds ahead).andThen fun value d less isRight left => ?_
  rw [typeSuffixes, Cursor.mark?_eq_none left (Mark.ne_of_ends signEnds noBracket)]
  exact .ok isRight left

/-- Where no bracket follows, there are no suffixes. -/
theorem ReadsOperand.suffixed (reads : ReadsOperand kinds right) (limit : Cursor) :
    Reads (fun sign => sign.endsOperand = true) (all limit).suffixedType kinds right := by
  intro c inside sign rest ends ahead
  obtain ⟨value, d, inside', same, isRight, left⟩ :=
    reads limit c inside sign rest (Mark.endsPrimary_of_endsOperand ends) ahead
  rw [typeSuffixes, Cursor.mark?_eq_none left (Mark.ne_of_ends ends rfl)] at same
  exact ⟨value, d, same, isRight, left⟩

/-! ## Types without operators -/

/-- A type in parentheses is read as itself. -/
theorem reads_parens
    (reads : Reads (fun sign => sign.endsType = true) rules.type kinds right)
    (closed : Lookahead.Closed kinds) :
    Reads (fun sign => sign.endsPrimary = true) rules.primaryType
      ([.mark .lparen] ++ kinds ++ [.mark .rparen]) right := by
  intro c inside sign rest ends ahead
  rw [List.append_assoc, List.append_assoc] at ahead
  obtain ⟨past, isNext, isFirst, left⟩ := Cursor.next?_of_kinds ahead
  have noFunction : Lookahead.startsFunctionType c.ahead = false :=
    (Lookahead.startsFunctionType_of_group closed ahead).trans
      (decide_eq_false (Mark.ne_of_ends ends rfl))
  rw [primaryType, isNext]
  dsimp only
  rw [isFirst]
  dsimp only
  rw [if_neg (by rw [noFunction]; exact Bool.false_ne_true)]
  refine .go ((reads past.rest _ .rparen _ rfl left).andThen fun value d less isRight left => ?_)
  exact (Cursor.gives_expectMark left).map fun _ _ => isRight

/-- A name behind which neither a point nor type arguments stand. -/
theorem gives_namedTypeAfter {c : Cursor} {inside : c.remaining ≤ limit.remaining} {sign : Mark}
    {rest : List Kind} (ends : sign.endsPrimary = true) (ahead : c.kinds = .mark sign :: rest)
    (start : Span) {name : String} (right_ : ∀ span, right ⟨.named name [], span⟩) :
    (rules.namedTypeAfter start name c inside).Gives right (.mark sign :: rest) := by
  rw [namedTypeAfter, Cursor.seesMark_eq ahead, Cursor.seesMark_eq ahead,
    decide_eq_false (Mark.ne_of_ends ends rfl), decide_eq_false (Mark.ne_of_ends ends rfl)]
  exact .ok (right_ _) ahead

/-- A name is read as a named type. -/
theorem reads_name {name : String} (right_ : ∀ span, right ⟨.named name [], span⟩) :
    Reads (fun sign => sign.endsPrimary = true) rules.primaryType [.name name] right := by
  intro c inside sign rest ends ahead
  obtain ⟨past, isNext, isFirst, left⟩ := Cursor.next?_of_kinds ahead
  rw [primaryType, isNext]
  dsimp only
  rw [isFirst]
  split <;> try contradiction
  · next word =>
      cases word
      rw [Cursor.keyword?_eq_none left nofun]
      exact .go (gives_namedTypeAfter ends left _ right_)
  · next word =>
      cases word
      exact .go (gives_namedTypeAfter ends left _ right_)
  · next other => exact absurd rfl (other name)

/-- The reserved words that name types are read as named types. -/
theorem reads_reserved {word : Keyword} (isName : word = .null_ ∨ word = .void_)
    (right_ : ∀ span, right ⟨.named word.text [], span⟩) :
    Reads (fun sign => sign.endsPrimary = true) rules.primaryType [.keyword word] right := by
  intro c inside sign rest ends ahead
  obtain ⟨past, isNext, isFirst, left⟩ := Cursor.next?_of_kinds ahead
  rw [primaryType, isNext]
  dsimp only
  rw [isFirst]
  rcases isName with rfl | rfl <;> exact .go (.ok (right_ _) left)

/-- A string is read as its type. -/
theorem reads_string {content : String} (right_ : ∀ span, right ⟨.stringLiteral content, span⟩) :
    Reads (fun sign => sign.endsPrimary = true) rules.primaryType [.string content] right := by
  intro c inside sign rest ends ahead
  obtain ⟨past, isNext, isFirst, left⟩ := Cursor.next?_of_kinds ahead
  rw [primaryType, isNext]
  dsimp only
  rw [isFirst]
  exact .go (.ok (right_ _) left)

/-! ## Tuples -/

/-- A written type has no label. -/
theorem gives_skipElementLabel {c : Cursor} (begins : BeginsType c.kinds) :
    (skipElementLabel c).Gives (fun _ => True) c.kinds := by
  obtain ⟨first, others, same, _, names⟩ := begins
  obtain ⟨past, isNext, rfl, rfl⟩ := Cursor.next?_of_kinds same
  rw [skipElementLabel, isNext]
  dsimp only
  split
  · next name isName =>
      have behind := (names name isName).2
      rw [Cursor.mark?, Cursor.mark?,
        behind.nextIf?_eq_none fun sign ends => decide_eq_false (Mark.ne_of_ends ends rfl),
        behind.nextIf?_eq_none fun sign ends => decide_eq_false (Mark.ne_of_ends ends rfl)]
      exact .ok trivial rfl
  · exact .ok trivial rfl

/-- A type is read as an element of a tuple. -/
theorem reads_tupleElement
    (reads : Reads (fun sign => sign.endsType = true) rules.type kinds right)
    (begins : BeginsType kinds) :
    Reads (fun sign => sign.endsType = true) rules.tupleElement kinds right := by
  intro c inside sign rest ends ahead
  have beginsAll := begins.append (.mark (Mark.endsPrimary_of_endsOperand
    (Mark.endsOperand_of_endsType ends)) : EndsPrimary (.mark sign :: rest))
  obtain ⟨first, others, same, other⟩ :=
    beginsAll.off (rfl : (Kind.mark .ellipsis).startsWrittenType = _)
  refine (Cursor.gives_optionalMark_none (ahead.trans same) other).bind fun _ c₁ _ _ left => ?_
  have left := left.trans same.symm
  have label := gives_skipElementLabel (left ▸ beginsAll)
  refine label.bind fun _ c₂ _ _ same => ?_
  refine (reads c₂ _ sign rest ends (same.trans left)).andThen fun type c₃ _ isRight left => ?_
  refine (Cursor.gives_optionalMark_none left (Mark.ne_of_ends ends rfl)).bind
    fun _ c₄ _ _ left => .ok isRight left

/-- Types with commas between them, in square brackets, are read as a tuple. -/
theorem reads_tuple {ι : Type} {spell : ι → List Kind} {means : ι → TypeExpression → Prop}
    {parts : List ι}
    (reads : ∀ part ∈ parts,
      Reads (fun sign => sign.endsType = true) rules.type (spell part) (means part))
    (begins : ∀ part ∈ parts, BeginsType (spell part)) :
    Reads (fun sign => sign.endsPrimary = true) rules.primaryType
      ([.mark .lbracket] ++ [.mark .comma].intercalate (parts.map spell) ++ [.mark .rbracket])
      (fun type => ∃ elements span, type = ⟨.tuple elements, span⟩ ∧
        List.Forall₂ means parts elements) := by
  intro c inside sign rest ends ahead
  rw [List.append_assoc, List.append_assoc] at ahead
  obtain ⟨past, isNext, isFirst, _⟩ := Cursor.next?_of_kinds ahead
  rw [primaryType, isNext]
  dsimp only
  rw [isFirst]
  dsimp only
  rw [tupleType]
  refine (Cursor.gives_expectMark ahead).andThen fun opened d less _ left => ?_
  refine (gives_elements (fun part isPart c within sign rest either =>
    reads_tupleElement (reads part isPart) (begins part isPart) c within sign rest ?_)
    (fun part isPart => (begins part isPart).off rfl) left nofun).andThen
      fun elements e less all left => ?_
  · rcases either with rfl | rfl <;> rfl
  · obtain ⟨types, rfl, all⟩ := all
    exact .ok ⟨_, _, rfl, all⟩ left

/-! ## Names of parameters and members -/

/-- The tokens between the name of an optional part and what comes behind. -/
def optionalKinds (optional : Bool) : List Kind := if optional then [.mark .question] else []

theorem nameKinds_eq (name : String) (optional : Bool) :
    nameKinds name optional = .name name :: optionalKinds optional := by
  cases optional <;> rfl

/-- The mark of an optional part is seen where it stands. -/
theorem gives_optional {c : Cursor} {optional : Bool} {mark : Mark} {rest : List Kind}
    (ahead : c.kinds = optionalKinds optional ++ .mark mark :: rest)
    (other : mark ≠ .question) :
    (c.optionalMark .question).Gives (· = optional) (.mark mark :: rest) := by
  cases optional with
  | true => exact Cursor.gives_optionalMark ahead
  | false => exact Cursor.gives_optionalMark_none ahead (by simpa using other)

/-- A name in front of a mark that ends it is no modifier. -/
theorem modifies_eq_false {c : Cursor} {name : String} {optional : Bool} {mark : Mark}
    {rest : List Kind} (ahead : c.kinds = .name name :: (optionalKinds optional ++ .mark mark :: rest))
    (ends : (Kind.mark mark).endsName = true) : c.modifies = false := by
  cases optional with
  | true => exact Cursor.modifies_of_kinds ahead rfl
  | false => exact Cursor.modifies_of_kinds ahead ends

/-- A type behind a colon is read. -/
theorem gives_ascription {c : Cursor} {inside : c.remaining < limit.remaining} {sign : Mark}
    {rest : List Kind} (reads : Reads (fun sign => sign.endsType = true) rules.type kinds right)
    (ends : sign.endsType = true)
    (ahead : c.kinds = .mark .colon :: (kinds ++ .mark sign :: rest)) :
    (rules.ascription c inside).Gives (fun type => ∃ one, type = some one ∧ right one)
      (.mark sign :: rest) := by
  obtain ⟨past, isNext, left⟩ := Cursor.mark?_of_kinds ahead
  rw [ascription, isNext]
  exact .lax ((Outcome.Gives.go (reads past.rest _ sign rest ends left)).map fun value isRight =>
    ⟨value, rfl, isRight⟩)

/-! ## Function types -/

/-- A name with a type is read as a parameter. -/
theorem reads_parameter {label : ParameterLabel}
    (reads : Reads (fun sign => sign.endsType = true) rules.type kinds right) :
    Reads (fun sign => sign.endsType = true) rules.parameter
      (nameKinds label.name label.optional ++ .mark .colon :: kinds)
      (fun parameter => parameter.label = label ∧
        ∃ type, parameter.type = some type ∧ right type) := by
  intro c inside sign rest ends ahead
  rw [nameKinds_eq, List.append_assoc, List.cons_append, List.cons_append] at ahead
  have decorators : (rules.decorators [] c (by omega)).Gives (· = []) c.kinds := by
    rw [Rules.decorators, Cursor.mark?_eq_none ahead (by simp)]
    exact .ok rfl rfl
  refine decorators.bind fun decorators c₁ _ _ left => ?_
  have left := left.trans ahead
  have modifiers : (c₁.modifiers .none).Gives (· = .none) c₁.kinds := by
    obtain ⟨past, isNext, isName, _⟩ := Cursor.next?_of_kinds left
    rw [Cursor.modifiers, isNext]
    dsimp only
    rw [isName]
    dsimp only
    rw [modifies_eq_false left rfl, if_neg Bool.false_ne_true]
    exact .ok rfl rfl
  refine modifiers.bind fun modifiers c₂ _ _ same => ?_
  have left := same.trans left
  refine (Cursor.gives_optionalMark_none left (by simp)).bind fun isRest c₃ _ noRest left => ?_
  have name : (parameterName c₃).Gives (· = label.name)
      (optionalKinds label.optional ++ .mark .colon :: (kinds ++ .mark sign :: rest)) := by
    obtain ⟨past, isNext, isName, left⟩ := Cursor.next?_of_kinds left
    rw [parameterName, isNext]
    dsimp only
    rw [isName]
    exact .go (.ok rfl left)
  refine name.andThen fun name c₄ _ isName left => ?_
  refine (gives_optional left (by simp)).bind fun optional c₅ _ isOptional left => ?_
  refine (gives_ascription reads ends left).bind fun type c₆ _ isType left => ?_
  have initial : (rules.initial c₆ (by omega)).Gives (· = none) (.mark sign :: rest) := by
    rw [Rules.initial, Cursor.mark?_eq_none left (Mark.ne_of_ends ends rfl)]
    exact .ok rfl left
  refine initial.bind fun value c₇ _ noValue left => .ok ⟨?_, isType⟩ left
  subst isName isOptional noValue noRest
  simp [Parameter.label, Parameter.isOptional]

/-- The tokens of the parameters of a function type, before they are put in parentheses. -/
def parameterKinds {ι : Type} (label : ι → ParameterLabel) (spell : ι → List Kind)
    (parts : List ι) : List Kind :=
  [.mark .comma].intercalate (parts.map fun part =>
    nameKinds (label part).name (label part).optional ++ .mark .colon :: spell part)

section Functions

variable {ι : Type} {label : ι → ParameterLabel} {spell : ι → List Kind}
  {means : ι → TypeExpression → Prop} {parts : List ι} {result : List Kind}
  {resultMeans : TypeExpression → Prop}

/-- An annotation of a parameter says what is said of it. -/
def MeansParameter (label : ι → ParameterLabel) (means : ι → TypeExpression → Prop) (part : ι)
    (parameter : Parameter) : Prop :=
  parameter.label = label part ∧ ∃ type, parameter.type = some type ∧ means part type

/-- Named types in parentheses are read as parameters. -/
theorem gives_parameters
    (reads : ∀ part ∈ parts,
      Reads (fun sign => sign.endsType = true) rules.type (spell part) (means part))
    {c : Cursor} {inside : c.remaining ≤ limit.remaining} {rest : List Kind}
    (ahead : c.kinds = .mark .lparen :: (parameterKinds label spell parts ++
      .mark .rparen :: rest)) :
    (rules.parameters c inside).Gives (List.Forall₂ (MeansParameter label means) parts) rest := by
  refine (Cursor.gives_expectMark ahead).andThen fun opened d less _ left => ?_
  refine (gives_elements (fun part isPart c within sign rest either =>
    reads_parameter (reads part isPart) c within sign rest ?_) (fun part isPart => ?_)
    left nofun).mono ?_
  · rcases either with rfl | rfl <;> rfl
  · rw [nameKinds_eq]
    exact ⟨_, _, rfl, nofun⟩
  · rintro _ ⟨parameters, rfl, all⟩
    exact all

/-- A type that is no predicate is read as the type of a result. -/
theorem gives_returnType {c : Cursor} {inside : c.remaining < limit.remaining} {sign : Mark}
    {rest : List Kind} (reads : Reads (fun sign => sign.endsType = true) rules.type kinds right)
    (begins : BeginsType kinds) (ends : sign.endsType = true)
    (ahead : c.kinds = kinds ++ .mark sign :: rest) :
    (rules.returnType c inside).Gives right (.mark sign :: rest) := by
  have gives := reads c inside sign rest ends ahead
  have behind : EndsPrimary (.mark sign :: rest) :=
    .mark (Mark.endsPrimary_of_endsOperand (Mark.endsOperand_of_endsType ends))
  obtain ⟨first, others, same, starts, names⟩ := begins.append behind
  obtain ⟨past, isNext, rfl, rfl⟩ := Cursor.next?_of_kinds (ahead.trans same)
  rw [returnType, isNext]
  dsimp only
  cases isSecond : past.rest.next? with
  | none => exact gives
  | some second =>
      -- Behind a name stands a mark, and neither the subject of a predicate nor `is`.
      have noName : ∀ name, past.token.kind = .name name → ∃ mark : Mark,
          second.token.kind = .mark mark := fun name isName => by
        obtain ⟨mark, isMark, _⟩ := (names name isName).2.next isSecond
        exact ⟨mark, isMark⟩
      dsimp only
      rw [if_neg, if_neg]
      · exact gives
      · rintro ⟨subject, isWord⟩
        cases isFirst : past.token.kind with
        | name name =>
            obtain ⟨mark, isMark⟩ := noName name isFirst
            rw [isMark] at isWord
            cases isWord
        | keyword word =>
            rw [isFirst] at subject starts
            cases word <;> cases subject
            cases starts
        | _ => rw [isFirst] at subject; cases subject
      · rintro ⟨isWord, subject⟩
        obtain ⟨mark, isMark⟩ := noName _ isWord
        rw [isMark] at subject
        cases subject

/-- Parameters with an arrow and a result behind them are read as a function type. -/
theorem reads_function
    (reads : ∀ part ∈ parts,
      Reads (fun sign => sign.endsType = true) rules.type (spell part) (means part))
    (readsResult : Reads (fun sign => sign.endsType = true) rules.type result resultMeans)
    (begins : BeginsType result) (closed : Lookahead.Closed (parameterKinds label spell parts)) :
    Reads (fun sign => sign.endsType = true) rules.primaryType
      ([.mark .lparen] ++ parameterKinds label spell parts ++ [.mark .rparen] ++
        .mark .arrow :: result)
      (fun type => ∃ parameters value span, type = ⟨.function parameters value, span⟩ ∧
        List.Forall₂ (MeansParameter label means) parts parameters ∧ resultMeans value) := by
  intro c inside sign rest ends ahead
  have grouped : c.kinds = .mark .lparen ::
      (parameterKinds label spell parts ++ .mark .rparen :: .mark .arrow ::
        (result ++ .mark sign :: rest)) := by
    rw [ahead]
    simp
  have isFunction : Lookahead.startsFunctionType c.ahead = true :=
    (Lookahead.startsFunctionType_of_group closed grouped).trans (decide_eq_true rfl)
  obtain ⟨past, isNext, isFirst, _⟩ := Cursor.next?_of_kinds grouped
  rw [primaryType, isNext]
  dsimp only
  rw [isFirst]
  dsimp only
  rw [if_pos isFunction]
  refine (Cursor.gives_skipAnglesIfAny grouped nofun).bind fun _ c₁ _ _ left => ?_
  refine (gives_parameters reads left).andThen fun parameters c₂ _ all left => ?_
  refine (Cursor.gives_expectMark left).andThen fun _ c₃ _ _ left => ?_
  refine (gives_returnType readsResult begins ends left).andThen fun value c₄ _ isResult left => ?_
  exact .ok ⟨parameters, value, _, rfl, all, isResult⟩ left

/-! ## Object types -/

theorem gives_propertyName {c : Cursor} {name : String} {rest : List Kind}
    (ahead : c.kinds = .name name :: rest) :
    c.propertyName.Gives (fun property => property.name = some name) rest := by
  obtain ⟨past, isNext, isName, left⟩ := Cursor.next?_of_kinds ahead
  rw [Cursor.propertyName, isNext]
  dsimp only
  rw [isName]
  exact .go (.ok rfl left)

/-- A signature starts at a parenthesis. -/
theorem startsSignature_eq {c : Cursor} {kind : Kind} {rest : List Kind}
    (ahead : c.kinds = kind :: rest) :
    startsSignature c = (decide (kind = .mark .lparen) || decide (kind = .mark .lt)) := by
  rw [startsSignature, Cursor.seesMark_eq ahead, Cursor.seesMark_eq ahead]

/-- A name in front of a mark is no accessor. -/
theorem gives_skipAccessorWord {c : Cursor} {name : String} {optional : Bool} {mark : Mark}
    {rest : List Kind}
    (ahead : c.kinds = .name name :: (optionalKinds optional ++ .mark mark :: rest)) :
    (skipAccessorWord c).Gives (· = false) c.kinds := by
  have noName : c.namesProperty 1 = false := by
    rw [Cursor.namesProperty, Cursor.peek?_eq, ahead]
    cases optional <;> rfl
  rw [skipAccessorWord, noName, if_neg Bool.false_ne_true]
  exact .ok rfl rfl

/-- A member that starts with its name is read by the rule for such members. -/
theorem gives_typeMember {c : Cursor} {inside : c.remaining ≤ limit.remaining} {name : String}
    {optional : Bool} {mark : Mark} {rest left : List Kind} {rightMember : TypeMember → Prop}
    (ends : (Kind.mark mark).endsName = true)
    (ahead : c.kinds = .name name :: (optionalKinds optional ++ .mark mark :: rest))
    (named : ∀ (d : Cursor) (within : d.remaining ≤ limit.remaining), d.kinds = c.kinds →
      (rules.namedTypeMember c.span false d within).Gives rightMember left) :
    (rules.typeMember c inside).Gives (fun member => ∃ one, member = some one ∧ rightMember one)
      left := by
  have noModifier := modifies_eq_false ahead ends
  have modifier : (c.optionalModifier "readonly").Gives (· = false) c.kinds := by
    rw [Cursor.optionalModifier, noModifier, if_neg Bool.false_ne_true]
    exact .ok rfl rfl
  rw [typeMember, startsSignature_eq ahead]
  rw [if_neg (by simp), Cursor.keyword?_eq_none ahead nofun]
  refine modifier.bind fun readonly d less isReadonly same => ?_
  subst isReadonly
  rw [Cursor.seesMark_eq (same.trans ahead), if_neg (by simp)]
  exact (named d _ same).map fun member isRight => ⟨member, rfl, isRight⟩

/-- A name with a type is read as a property. -/
theorem reads_property {label : MemberLabel}
    (reads : Reads (fun sign => sign.endsType = true) rules.type kinds right) :
    Reads (fun sign => sign.endsType = true) rules.typeMember
      (nameKinds label.name label.optional ++ .mark .colon :: kinds)
      (fun member => ∃ one, member = some one ∧ ∃ type readonly span,
        one = ⟨label.name, label.optional, readonly, .property (some type), span⟩ ∧
          right type) := by
  intro c inside sign rest ends ahead
  rw [nameKinds_eq, List.append_assoc, List.cons_append, List.cons_append] at ahead
  refine gives_typeMember rfl ahead fun d within same => ?_
  have left := same.trans ahead
  refine (gives_skipAccessorWord left).bind fun isGetter c₁ _ noGetter same => ?_
  refine (gives_propertyName (same.trans left)).andThen fun property c₂ _ isName left => ?_
  refine (gives_optional left nofun).bind fun optional c₃ _ isOptional left => ?_
  dsimp only
  rw [startsSignature_eq left, if_neg (by simp)]
  refine (gives_ascription reads ends left).bind fun type c₄ _ isType left => ?_
  obtain ⟨one, rfl, isRight⟩ := isType
  refine .ok ⟨one, false, c₄.spanFrom c.span, ?_, isRight⟩ left
  rw [isName, isOptional]
  rfl

/-- A name with parameters and the type of a result is read as a method. -/
theorem reads_method {member : MemberLabel}
    (reads : ∀ part ∈ parts,
      Reads (fun sign => sign.endsType = true) rules.type (spell part) (means part))
    (readsResult : Reads (fun sign => sign.endsType = true) rules.type result resultMeans)
    (begins : BeginsType result) :
    Reads (fun sign => sign.endsType = true) rules.typeMember
      (nameKinds member.name member.optional ++ ([.mark .lparen] ++
        parameterKinds label spell parts ++ [.mark .rparen] ++ .mark .colon :: result))
      (fun type => ∃ one, type = some one ∧ ∃ parameters value readonly span,
        one = ⟨member.name, member.optional, readonly, .method parameters (some value), span⟩ ∧
          List.Forall₂ (MeansParameter label means) parts parameters ∧ resultMeans value) := by
  intro c inside sign rest ends ahead
  have ahead : c.kinds = .name member.name :: (optionalKinds member.optional ++
      .mark .lparen :: (parameterKinds label spell parts ++ .mark .rparen :: .mark .colon ::
        (result ++ .mark sign :: rest))) := by
    rw [ahead, nameKinds_eq]
    simp
  refine gives_typeMember rfl ahead fun d within same => ?_
  have left := same.trans ahead
  refine (gives_skipAccessorWord left).bind fun isGetter c₁ _ noGetter same => ?_
  refine (gives_propertyName (same.trans left)).andThen fun property c₂ _ isName left => ?_
  refine (gives_optional left nofun).bind fun optional c₃ _ isOptional left => ?_
  dsimp only
  rw [startsSignature_eq left, if_pos (by simp)]
  refine (Cursor.gives_skipAnglesIfAny left nofun).bind fun _ c₄ _ _ left => ?_
  refine .lax ((gives_parameters reads left).andThen fun parameters c₅ _ all left => ?_)
  have ascription : (rules.resultAscription c₅ (by omega)).Gives
      (fun type => ∃ one, type = some one ∧ resultMeans one) (.mark sign :: rest) := by
    obtain ⟨past, isNext, left⟩ := Cursor.mark?_of_kinds left
    rw [resultAscription, isNext]
    exact .lax ((Outcome.Gives.go (gives_returnType readsResult begins ends left)).map
      fun value isRight => ⟨value, rfl, isRight⟩)
  refine ascription.bind fun type c₆ _ isType left => ?_
  obtain ⟨one, rfl, isRight⟩ := isType
  refine .ok ⟨parameters, one, false, c₆.spanFrom c.span, ?_, all, isRight⟩ left
  rw [isName, isOptional, noGetter]
  rfl

end Functions

/-- What stands behind the brace of an object type is no mapped type. -/
theorem startsMappedType_eq_false {tokens : List Token} {kinds : List Kind}
    (same : tokens.map Token.kind = .mark .lbrace :: kinds)
    (behind : (∃ rest, kinds = .mark .rbrace :: rest) ∨
      ∃ name mark rest, kinds = .name name :: .mark mark :: rest ∧ mark ≠ .lbracket) :
    Lookahead.startsMappedType tokens = false := by
  obtain ⟨brace, tokens, rfl, _, same⟩ := List.map_eq_cons_iff.1 same
  have noSign : ∀ {kind : Kind} {rest : List Kind}, tokens.map Token.kind = kind :: rest →
      kind ≠ .mark .plus → kind ≠ .mark .minus → Lookahead.afterSign tokens = tokens := by
    rintro kind rest same noPlus noMinus
    obtain ⟨token, tokens, rfl, rfl, _⟩ := List.map_eq_cons_iff.1 same
    rw [Lookahead.afterSign]
    · rintro span _ ⟨⟩
      exact noPlus rfl
    · rintro span _ ⟨⟩
      exact noMinus rfl
  rw [Lookahead.startsMappedType, List.drop_one, List.tail_cons]
  rcases behind with ⟨rest, rfl⟩ | ⟨name, mark, rest, rfl, noBracket⟩
  · rw [noSign same nofun nofun]
    obtain ⟨⟨kind, span⟩, tokens, rfl, rfl, _⟩ := List.map_eq_cons_iff.1 same
    rfl
  · rw [noSign same nofun nofun]
    obtain ⟨⟨kind, span⟩, others, rfl, rfl, isRest⟩ := List.map_eq_cons_iff.1 same
    obtain ⟨⟨kind, span'⟩, others, rfl, rfl, _⟩ := List.map_eq_cons_iff.1 isRest
    by_cases isWord : name = "readonly"
    · subst isWord
      have after : Lookahead.afterReadonly
          (⟨.name "readonly", span⟩ :: ⟨.mark mark, span'⟩ :: others) =
            ⟨.mark mark, span'⟩ :: others := rfl
      rw [after]
      split
      · next isBracket =>
          cases isBracket
          exact absurd rfl noBracket
      · rfl
    · rw [Lookahead.afterReadonly]
      rintro span _ ⟨⟩
      exact isWord rfl

/-- Members with semicolons between them, in braces, are read as an object type. -/
theorem reads_object {ι : Type} {spell : ι → List Kind} {means : ι → TypeMember → Prop}
    {parts : List ι}
    (reads : ∀ part ∈ parts, Reads (fun sign => sign.endsType = true) rules.typeMember (spell part)
      fun member => ∃ one, member = some one ∧ means part one)
    (begins : ∀ part ∈ parts, ∃ name mark others,
      spell part = .name name :: .mark mark :: others ∧ mark ≠ .lbracket) :
    Reads (fun sign => sign.endsPrimary = true) rules.primaryType
      ([.mark .lbrace] ++ [.mark .semicolon].intercalate (parts.map spell) ++ [.mark .rbrace])
      (fun type => ∃ members span, type = ⟨.object members, span⟩ ∧
        List.Forall₂ means parts members) := by
  intro c inside sign rest ends ahead
  rw [List.append_assoc, List.append_assoc] at ahead
  obtain ⟨past, isNext, isFirst, _⟩ := Cursor.next?_of_kinds ahead
  have notMapped : Lookahead.startsMappedType c.ahead = false := by
    refine startsMappedType_eq_false ahead ?_
    cases parts with
    | nil => exact .inl ⟨_, rfl⟩
    | cons part parts =>
        obtain ⟨name, mark, others, same, noBracket⟩ := begins part List.mem_cons_self
        rw [intercalate_eq, same]
        exact .inr ⟨name, mark, _, rfl, noBracket⟩
  rw [primaryType, isNext]
  dsimp only
  rw [isFirst]
  dsimp only
  rw [if_neg (by rw [notMapped]; exact Bool.false_ne_true)]
  have members : (rules.typeMembers c inside).Gives (List.Forall₂ means parts)
      (.mark sign :: rest) := by
    refine (Cursor.gives_expectMark ahead).andThen fun opened d less _ left => .lax ?_
    refine (gives_typeMembersAfter (fun part isPart c within sign rest either =>
      reads part isPart c within sign rest ?_) (fun part isPart => ?_)
      (show ∀ separator ∈ ([] : List Kind), separator = .mark .semicolon from nofun) left).mono ?_
    · rcases either with rfl | rfl <;> rfl
    · obtain ⟨name, mark, others, same, _⟩ := begins part isPart
      exact ⟨name, _, same⟩
    · rintro _ ⟨members, rfl, all⟩
      exact all
  exact members.andThen fun members d _ all left => .ok ⟨members, _, rfl, all⟩ left

end Rules

end InjectionCheck
