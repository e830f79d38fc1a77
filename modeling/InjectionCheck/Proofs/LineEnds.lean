import InjectionCheck.Proofs.BlankBoundaries
import InjectionCheck.Proofs.Lexemes

/-!
# Line ends with and without carriage returns

A text whose lines end with a line feed and the same text with a carriage return in front of every
line feed (`Scanner.withReturns`) give the same tokens and the same faults, as long as no string
is continued over a line end. A backslash hides one character, so in front of a carriage return
it does not hide the line feed, and the string that goes on there is not closed any more. Up to
the first such string the two texts are read alike (`Scanner.alike_withReturns`). If the strings
that are continued are closed, the tokens and faults are the same exactly if there are none
(`TokenList.ofText_withReturns_iff`).

Inside of comments and templates a line feed is a character like others: their ends are found at
the same place (`Scanner.commentEnd_withReturns`, `Scanner.templateEnd_withReturns`). All other
pieces lie on one line and end before blanks.
-/

set_option autoImplicit false

namespace InjectionCheck

namespace Scanner

/-! ## Carriage returns -/

/-- A text with a carriage return in front of every line feed. -/
def withReturns (text : List Char) : List Char :=
  text.flatMap fun c => if c = '\n' then ['\r', '\n'] else [c]

theorem withReturns_nil : withReturns [] = [] := rfl

theorem withReturns_feed (text : List Char) :
    withReturns ('\n' :: text) = '\r' :: '\n' :: withReturns text := rfl

theorem withReturns_cons {c : Char} (other : c ≠ '\n') (text : List Char) :
    withReturns (c :: text) = c :: withReturns text := by
  rw [withReturns, List.flatMap_cons, if_neg other]
  rfl

theorem withReturns_append (text text' : List Char) :
    withReturns (text ++ text') = withReturns text ++ withReturns text' := List.flatMap_append

/-- A line stays as it is. -/
theorem withReturns_line {line : List Char} (inLine : '\n' ∉ line) : withReturns line = line := by
  induction line with
  | nil => rfl
  | cons c line ih =>
      rw [List.mem_cons, not_or] at inLine
      rw [withReturns_cons (Ne.symm inLine.1), ih inLine.2]

/-- What stands first is the same, line ends apart. -/
theorem head?_withReturns {d : Char} (noFeed : d ≠ '\n') (noReturn : d ≠ '\r') (text : List Char) :
    (withReturns text).head? = some d ↔ text.head? = some d := by
  cases text with
  | nil => rfl
  | cons c text =>
      by_cases feed : c = '\n'
      · subst feed
        simp [withReturns_feed, noFeed.symm, noReturn.symm]
      · rw [withReturns_cons feed, List.head?_cons, List.head?_cons]

/-- A text that is empty or starts with a line feed. -/
inductive EndsLine : List Char → Prop where
  | nil : EndsLine []
  | feed (others : List Char) : EndsLine ('\n' :: others)

theorem EndsLine.startsBlank {rest : List Char} (ends : EndsLine rest) : StartsBlank rest := by
  cases ends with
  | nil => exact fun _ isFirst => nomatch isFirst
  | feed others =>
      intro c isFirst
      cases isFirst
      rfl

theorem EndsLine.startsBlank_withReturns {rest : List Char} (ends : EndsLine rest) :
    StartsBlank (withReturns rest) := by
  cases ends with
  | nil => exact fun _ isFirst => nomatch isFirst
  | feed others =>
      intro c isFirst
      cases isFirst
      rfl

/-- The first line of a text, and the rest. -/
theorem exists_line (text : List Char) :
    ∃ line rest, text = line ++ rest ∧ '\n' ∉ line ∧ EndsLine rest := by
  induction text with
  | nil => exact ⟨[], [], rfl, List.not_mem_nil, .nil⟩
  | cons c text ih =>
      by_cases feed : c = '\n'
      · subst feed
        exact ⟨[], _, rfl, List.not_mem_nil, .feed text⟩
      · obtain ⟨line, rest, rfl, inLine, ends⟩ := ih
        refine ⟨c :: line, rest, rfl, ?_, ends⟩
        rw [List.mem_cons, not_or]
        exact ⟨Ne.symm feed, inLine⟩

/-! ## Comments and templates -/

/-- Two searches, one in a text and one in the text with carriage returns, that end at the same
place. -/
def SameReach (text : List Char) (search search' : Nat → Search) : Prop :=
  ∃ count found, count ≤ text.length ∧ (∀ passed, search passed = ⟨passed + count, found⟩) ∧
    ∀ passed, search' passed = ⟨passed + (withReturns (text.take count)).length, found⟩

/-- Two searches end at the same place if they do so behind some characters. -/
theorem SameReach.behind {text : List Char} {search search' search₁ search₁' : Nat → Search}
    (same : SameReach text search search') (front : List Char)
    (step : ∀ passed, search₁ passed = search (passed + front.length))
    (step' : ∀ passed, search₁' passed = search' (passed + (withReturns front).length)) :
    SameReach (front ++ text) search₁ search₁' := by
  obtain ⟨count, found, within, reach, reach'⟩ := same
  refine ⟨front.length + count, found, ?_, fun passed => ?_, fun passed => ?_⟩
  · rw [List.length_append]
    omega
  · rw [step, reach, Nat.add_assoc]
  · rw [step', reach', List.take_length_add_append, withReturns_append, List.length_append,
      Nat.add_assoc]

/-- **A block comment ends at the same place.** -/
theorem commentEnd_withReturns (text : List Char) :
    SameReach text (commentEnd text) (commentEnd (withReturns text)) := by
  induction text with
  | nil => exact ⟨0, false, Nat.zero_le _, fun _ => rfl, fun _ => rfl⟩
  | cons c text ih =>
      by_cases feed : c = '\n'
      · subst feed
        refine ih.behind ['\n'] (fun passed => ?_) fun passed => ?_
        · simp [commentEnd_cons]
        · simp [withReturns_feed, commentEnd_cons, withReturns_nil]
      by_cases closes : c = '*' ∧ text.head? = some '/'
      · obtain ⟨rfl, isFirst⟩ := closes
        obtain ⟨others, rfl⟩ := List.head?_eq_some_iff.1 isFirst
        exact ⟨2, true, by simp, fun _ => rfl, fun _ => rfl⟩
      · have closes' : ¬(c = '*' ∧ (withReturns text).head? = some '/') := by
          rwa [head?_withReturns (by decide) (by decide)]
        refine ih.behind [c] (fun passed => ?_) fun passed => ?_
        · rw [commentEnd_cons, if_neg closes]
          rfl
        · rw [withReturns_cons feed, commentEnd_cons, if_neg closes', withReturns_cons feed]
          rfl

/-- A line end is a character like others in a template. -/
theorem templateEnd_lineEnd {c : Char} (lineEnd : c = '\n' ∨ c = '\r') (text : List Char)
    (depth passed : Nat) :
    templateEnd (c :: text) depth passed = templateEnd text depth (passed + 1) := by
  obtain rfl | rfl := lineEnd <;> cases depth <;> simp [templateEnd_cons]

/-- **A template ends at the same place.** -/
theorem templateEnd_withReturns (text : List Char) (depth : Nat) :
    SameReach text (templateEnd text depth) (templateEnd (withReturns text) depth) := by
  match text with
  | [] => exact ⟨0, false, Nat.zero_le _, fun _ => rfl, fun _ => rfl⟩
  | c :: text =>
      by_cases feed : c = '\n'
      · subst feed
        refine (templateEnd_withReturns text depth).behind ['\n'] (fun passed => ?_)
          fun passed => ?_
        · exact templateEnd_lineEnd (.inl rfl) text depth passed
        · rw [withReturns_feed, templateEnd_lineEnd (.inr rfl), templateEnd_lineEnd (.inl rfl)]
          rfl
      rw [withReturns_cons feed]
      by_cases escape : c = '\\'
      · subst escape
        match text with
        | [] => exact ⟨1, false, Nat.le_refl _, fun _ => rfl, fun _ => rfl⟩
        | hidden :: text =>
            refine (templateEnd_withReturns text depth).behind ['\\', hidden] (fun _ => rfl)
              fun passed => ?_
            by_cases feed : hidden = '\n'
            · subst feed
              exact templateEnd_lineEnd (.inl rfl) _ _ _
            · have same : withReturns ['\\', hidden] = ['\\', hidden] :=
                withReturns_line (by simp [Ne.symm feed])
              rw [withReturns_cons feed, same]
              rfl
      have single : withReturns [c] = [c] := withReturns_line (by simpa using Ne.symm feed)
      -- The same character opens and closes in both texts.
      have further (depth' : Nat)
          (step : ∀ others passed, (others = text ∨ others = withReturns text) →
            templateEnd (c :: others) depth passed = templateEnd others depth' (passed + 1)) :
          SameReach (c :: text) (templateEnd (c :: text) depth)
            (templateEnd (c :: withReturns text) depth) := by
        refine (templateEnd_withReturns text depth').behind [c] (fun passed => ?_) fun passed => ?_
        · exact step text passed (.inl rfl)
        · rw [single]
          exact step (withReturns text) passed (.inr rfl)
      cases depth with
      | succ depth =>
          refine further (if c = '{' then depth + 2 else if c = '}' then depth else depth + 1)
            fun others passed _ => ?_
          rw [templateEnd_cons, if_neg escape, if_neg (Nat.succ_ne_zero _)]
          rfl
      | zero =>
          by_cases opens : c = '$' ∧ text.head? = some '{'
          · obtain ⟨rfl, isFirst⟩ := opens
            obtain ⟨others, rfl⟩ := List.head?_eq_some_iff.1 isFirst
            exact (templateEnd_withReturns others 1).behind ['$', '{'] (fun _ => rfl) fun _ => rfl
          by_cases closes : c = '\x60'
          · subst closes
            exact ⟨1, true, by simp, fun _ => rfl, fun _ => rfl⟩
          · refine further 0 fun others passed which => ?_
            have opens' : ¬(c = '$' ∧ others.head? = some '{') := by
              obtain rfl | rfl := which
              · exact opens
              · rwa [head?_withReturns (by decide) (by decide)]
            rw [templateEnd_cons, if_neg escape, if_pos rfl, if_neg opens', if_neg closes]
termination_by text.length

/-! ## Strings -/

/-- What the search for the end of a string does on a line: it finds the end, or passes the line,
or passes all of it but a backslash at its end. -/
inductive StringLine (quote : Char) : List Char → Prop where
  | closed {line : List Char} {count : Nat} (inside : count ≤ line.length)
    (ends : ∀ rest passed, stringEnd quote (line ++ rest) passed = ⟨passed + count, true⟩) :
    StringLine quote line
  | passed {line : List Char}
    (goesOn : ∀ rest passed,
      stringEnd quote (line ++ rest) passed = stringEnd quote rest (passed + line.length)) :
    StringLine quote line
  | escaped {line : List Char}
    (goesOn : ∀ rest passed,
      stringEnd quote (line ++ rest) passed = stringEnd quote rest (passed + line.length)) :
    StringLine quote (line ++ ['\\'])

namespace StringLine

variable {quote : Char} {line : List Char}

/-- The same behind some characters that are passed. -/
theorem behind (onLine : StringLine quote line) (front : List Char)
    (step : ∀ rest passed,
      stringEnd quote (front ++ rest) passed = stringEnd quote rest (passed + front.length)) :
    StringLine quote (front ++ line) := by
  cases onLine with
  | @closed _ count inside ends =>
      refine @closed quote (front ++ line) (front.length + count) ?_ fun rest passed => ?_
      · rw [List.length_append]
        omega
      · rw [List.append_assoc, step, ends, Nat.add_assoc]
  | passed goesOn =>
      refine .passed fun rest passed => ?_
      rw [List.append_assoc, step, goesOn, List.length_append, Nat.add_assoc]
  | @escaped line goesOn =>
      rw [← List.append_assoc]
      refine .escaped fun rest passed => ?_
      rw [List.append_assoc, step, goesOn, List.length_append, Nat.add_assoc]

theorem of_line (quote : Char) {line : List Char} (inLine : '\n' ∉ line) :
    StringLine quote line := by
  match line with
  | [] => exact .passed fun _ _ => rfl
  | c :: line =>
      rw [List.mem_cons, not_or] at inLine
      by_cases escape : c = '\\'
      · subst escape
        match line with
        | [] => exact @escaped quote [] fun _ _ => rfl
        | hidden :: line =>
            exact (of_line quote (fun feed => inLine.2 (.tail _ feed))).behind ['\\', hidden]
              fun _ _ => rfl
      by_cases closes : c = quote
      · refine @closed quote (c :: line) 1 (Nat.succ_pos _) fun rest passed => ?_
        rw [List.cons_append, stringEnd_cons, if_neg escape, if_neg (Ne.symm inLine.1),
          if_pos closes]
      · refine (of_line quote inLine.2).behind [c] fun rest passed => ?_
        rw [List.cons_append, stringEnd_cons, if_neg escape, if_neg (Ne.symm inLine.1),
          if_neg closes]
        rfl

end StringLine

/-! ## Lexemes -/

/-- A string that goes on behind a line end. -/
def Lexeme.IsContinued (lexeme : Lexeme) : Prop :=
  lexeme.taken.head?.any isQuote = true ∧ '\n' ∈ lexeme.taken

instance (lexeme : Lexeme) : Decidable lexeme.IsContinued := inferInstanceAs (Decidable (_ ∧ _))

/-- Lexemes that are the same up to a string that is continued in the first list, and is not
closed in the second one. -/
inductive Alike : List Lexeme → List Lexeme → Prop where
  | nil : Alike [] []
  | cons {lexeme lexeme' : Lexeme} {later later' : List Lexeme} (single : ¬lexeme.IsContinued)
    (same : lexeme'.content = lexeme.content) (more : Alike later later') :
    Alike (lexeme :: later) (lexeme' :: later')
  | broken {lexeme lexeme' : Lexeme} (continued : lexeme.IsContinued)
    (isOpen : lexeme'.content = .fault .openString) (later later' : List Lexeme) :
    Alike (lexeme :: later) (lexeme' :: later')

/-- All shorter texts are read alike. -/
def AlikeUpTo (length : Nat) : Prop :=
  ∀ ⦃text : List Char⦄, text.length ≤ length → '\r' ∉ text →
    Alike (lexemes text) (lexemes (withReturns text))

/-- A line end in front of a text leaves nothing. -/
theorem lexemes_withReturns_blank {c : Char} (blank : isBlank c = true) (text : List Char) :
    lexemes (withReturns (c :: text)) = lexemes (withReturns text) := by
  by_cases feed : c = '\n'
  · subst feed
    rw [withReturns_feed, lexemes_blank (by decide), lexemes_blank (by decide)]
  · rw [withReturns_cons feed, lexemes_blank blank]

/-- Two pieces of one content, what follows them being alike. -/
theorem alike_append {first : Char} {content : Content} {taken taken' rest rest' : List Char}
    {count count' : Nat} (isPiece : extent first (taken ++ rest) = (content, count))
    (isPiece' : extent first (taken' ++ rest') = (content, count'))
    (whole : taken.length = count - 1) (whole' : taken'.length = count' - 1)
    (single : isQuote first = true → '\n' ∉ taken)
    (more : Alike (lexemes rest) (lexemes rest')) :
    Alike (lexemes (first :: (taken ++ rest))) (lexemes (first :: (taken' ++ rest'))) := by
  rw [lexemes_append isPiece whole, lexemes_append isPiece' whole']
  have noContinuation : ¬Lexeme.IsContinued ⟨content, first :: taken⟩ := by
    rintro ⟨isQuote, feed⟩
    cases feed with
    | head => cases isQuote
    | tail _ feed => exact single isQuote feed
  cases content with
  | blank | comment => exact more
  | token | fault => exact .cons noContinuation rfl more

/-- A string that is continued is not closed in front of a carriage return. -/
theorem alike_broken {quote : Char} (isQuote : isQuote quote = true) {line : List Char}
    (goesOn : ∀ rest passed,
      stringEnd quote (line ++ rest) passed = stringEnd quote rest (passed + line.length))
    (others : List Char) :
    Alike (lexemes (quote :: (line ++ '\\' :: '\n' :: others)))
      (lexemes (quote :: (line ++ '\\' :: withReturns ('\n' :: others)))) := by
  have further : line.length + 2 ≤
      (stringEnd quote (line ++ '\\' :: '\n' :: others) 0).length := by
    rw [goesOn, Nat.zero_add]
    exact le_length_stringEnd quote others _
  have broken : stringEnd quote (line ++ '\\' :: withReturns ('\n' :: others)) 0 =
      ⟨line.length + 2, false⟩ := by
    rw [goesOn, Nat.zero_add]
    rfl
  rw [lexemes_of_extent (extent_quote isQuote _), lexemes_of_extent (extent_quote isQuote _)]
  rw [broken]
  generalize stringEnd quote (line ++ '\\' :: '\n' :: others) 0 = search at further ⊢
  have feed : '\n' ∈ (line ++ '\\' :: '\n' :: others).take search.length := by
    have front : line ++ ['\\', '\n'] <+: (line ++ '\\' :: '\n' :: others).take search.length := by
      refine List.prefix_take_iff.2 ⟨⟨others, by simp⟩, ?_⟩
      rw [List.length_append]
      exact further
    exact front.subset (by simp)
  have continued (content : Content) : Lexeme.IsContinued
      ⟨content, quote :: (line ++ '\\' :: '\n' :: others).take search.length⟩ :=
    ⟨isQuote, .tail _ feed⟩
  cases search.found with
  | false => exact .broken (continued _) rfl _ _
  | true => exact .broken (continued _) rfl _ _

section

variable {others : List Char} (noReturns : '\r' ∉ others) (shorter : AlikeUpTo others.length)

include noReturns shorter

/-- What is left of the text is read alike. -/
theorem alike_drop (count : Nat) :
    Alike (lexemes (others.drop count)) (lexemes (withReturns (others.drop count))) := by
  refine shorter ?_ fun inside => noReturns (List.mem_of_mem_drop inside)
  rw [List.length_drop]
  exact Nat.sub_le _ _

/-- A piece that starts with a search for its end is read alike if the search ends at the same
place. -/
theorem alike_search {first : Char} (front : List Char) {search search' : Nat → Search}
    (noQuote : isQuote first = false) (content : Bool → Content)
    (isPiece : extent first (front ++ others) =
      (content (search 0).found, (search 0).length + (front.length + 1)))
    (isPiece' : extent first (front ++ withReturns others) =
      (content (search' 0).found, (search' 0).length + (front.length + 1)))
    (same : SameReach others search search') :
    Alike (lexemes (first :: (front ++ others)))
      (lexemes (first :: (front ++ withReturns others))) := by
  obtain ⟨count, found, within, reach, reach'⟩ := same
  obtain ⟨before, after, rfl, rfl⟩ : ∃ before after, others = before ++ after ∧
      count = before.length :=
    ⟨_, _, (others.take_append_drop count).symm, (List.length_take_of_le within).symm⟩
  have more := alike_drop noReturns shorter before.length
  rw [List.drop_left] at more
  rw [reach 0, Nat.zero_add, ← List.append_assoc] at isPiece
  rw [reach' 0, Nat.zero_add, List.take_left, withReturns_append, ← List.append_assoc] at isPiece'
  rw [withReturns_append, ← List.append_assoc, ← List.append_assoc]
  refine alike_append isPiece isPiece' ?_ ?_ (fun isQuote => ?_) more
  · dsimp only
    rw [List.length_append]
    omega
  · dsimp only
    rw [List.length_append]
    omega
  · rw [noQuote] at isQuote
    cases isQuote

theorem alike_template :
    Alike (lexemes ('\x60' :: others)) (lexemes ('\x60' :: withReturns others)) :=
  alike_search noReturns shorter [] rfl
    (fun found => if found then .token .template else .fault .openTemplate)
    (extent_template others) (extent_template _) (templateEnd_withReturns others 0)

theorem alike_blockComment :
    Alike (lexemes ('/' :: '*' :: others)) (lexemes ('/' :: '*' :: withReturns others)) :=
  alike_search noReturns shorter ['*'] rfl
    (fun found => if found then .comment else .fault .openComment)
    (extent_blockComment others) (extent_blockComment _) (commentEnd_withReturns others)

end

section

variable {first : Char} {line rest : List Char} (inLine : '\n' ∉ line)
  (noReturns : '\r' ∉ line ++ rest) (shorter : AlikeUpTo (line ++ rest).length)

include inLine noReturns shorter

/-- A piece that ends on its line is read alike. -/
theorem alike_inLine {content : Content} {count : Nat} (fits : count ≤ 1 + line.length)
    (isPiece : extent first (line ++ rest) = (content, count))
    (isPiece' : extent first (line ++ withReturns rest) = (content, count)) :
    Alike (lexemes (first :: (line ++ rest))) (lexemes (first :: (line ++ withReturns rest))) := by
  have more := alike_drop noReturns shorter (count - 1)
  obtain ⟨before, after, rfl, whole⟩ : ∃ before after, line = before ++ after ∧
      before.length = count - 1 :=
    ⟨_, _, (line.take_append_drop (count - 1)).symm, List.length_take_of_le (by omega)⟩
  rw [List.mem_append, not_or] at inLine
  rw [List.append_assoc, ← whole, List.drop_left, withReturns_append, withReturns_line inLine.2]
    at more
  rw [List.append_assoc] at isPiece isPiece' ⊢
  rw [List.append_assoc]
  exact alike_append isPiece isPiece' whole whole (fun _ => inLine.1) more

/-- A piece that reaches to the end of its line, and takes the carriage return there, is read
alike. -/
theorem alike_toLineEnd {content : Content} (ends : EndsLine rest)
    (isPiece : extent first (line ++ rest) = (content, line.length + 1))
    (isPiece' : ∀ others,
      extent first (line ++ '\r' :: '\n' :: others) = (content, line.length + 2)) :
    Alike (lexemes (first :: (line ++ rest))) (lexemes (first :: (line ++ withReturns rest))) := by
  cases ends with
  | nil => exact alike_inLine inLine noReturns shorter (Nat.add_comm _ _).le isPiece isPiece
  | feed others =>
      have more := alike_drop noReturns shorter line.length
      rw [List.drop_left, lexemes_withReturns_blank rfl] at more
      have regroup : line ++ withReturns ('\n' :: others) =
          line ++ ['\r'] ++ '\n' :: withReturns others := by
        rw [withReturns_feed, List.append_assoc]
        rfl
      have isPiece' : extent first (line ++ ['\r'] ++ '\n' :: withReturns others) =
          (content, line.length + 2) := by
        rw [← isPiece' (withReturns others), List.append_assoc]
        rfl
      rw [regroup]
      refine alike_append isPiece isPiece' rfl (by simp) (fun _ => inLine) ?_
      rwa [lexemes_blank (c := '\n') rfl (withReturns others)]

/-- A piece that is no comment, string or template is read alike. -/
theorem alike_plain (ends : EndsLine rest) (plain : StartsPlain first (line ++ rest)) :
    Alike (lexemes (first :: (line ++ rest))) (lexemes (first :: (line ++ withReturns rest))) := by
  have plain' : StartsPlain first (line ++ []) := by
    refine ⟨plain.noBlank, plain.noQuote, plain.noTemplate, fun slash c isFirst => ?_⟩
    refine plain.noComment slash c ?_
    rw [List.append_nil] at isFirst
    obtain ⟨others, rfl⟩ := List.head?_eq_some_iff.1 isFirst
    rfl
  have fits : (extent first (line ++ [])).2 ≤ 1 + line.length := by
    rw [List.append_nil]
    exact extent_le first line
  exact alike_inLine inLine noReturns shorter fits
    (extent_cut_of_plain plain' ends.startsBlank fits)
    (extent_cut_of_plain plain' ends.startsBlank_withReturns fits)

/-- A string is read alike, unless it is continued. -/
theorem alike_string (isQuote : isQuote first = true) (ends : EndsLine rest) :
    Alike (lexemes (first :: (line ++ rest))) (lexemes (first :: (line ++ withReturns rest))) := by
  have noReturn : '\r' ≠ first := (ne_of_isQuote isQuote (by decide)).symm
  -- A string that is not closed on its line ends with it.
  have isOpen {others : List Char} {length : Nat}
      (search : stringEnd first others 0 = ⟨length, false⟩) :
      extent first others = (.fault .openString, length + 1) := by
    rw [extent_quote isQuote, stringExtent, search]
    rfl
  cases StringLine.of_line first inLine with
  | @closed _ count inside found =>
      have isPiece (rest : List Char) : extent first (line ++ rest) =
          (.token (.string (String.ofList (Literal.decode (line.take (count - 1))))),
            count + 1) := by
        rw [extent_quote isQuote, stringExtent, found]
        dsimp only
        rw [Nat.zero_add, List.take_append_of_le_length (by omega)]
        rfl
      exact alike_inLine inLine noReturns shorter (by omega) (isPiece rest) (isPiece _)
  | passed goesOn =>
      refine alike_toLineEnd inLine noReturns shorter ends (isOpen ?_) fun others => isOpen ?_
      · rw [goesOn, Nat.zero_add]
        cases ends <;> rfl
      · rw [goesOn, stringEnd_cons, if_neg (by decide), if_neg (by decide), if_neg noReturn,
          Nat.zero_add]
        rfl
  | @escaped line goesOn =>
      cases ends with
      | nil =>
          have isPiece : extent first (line ++ ['\\'] ++ []) =
              (.fault .openString, line.length + 2) := by
            refine isOpen ?_
            rw [List.append_assoc, goesOn, Nat.zero_add]
            rfl
          exact alike_inLine inLine noReturns shorter (by simp; omega) isPiece isPiece
      | feed others =>
          rw [List.append_assoc, List.append_assoc]
          exact alike_broken isQuote goesOn others

end

/-- A line comment is read alike. -/
theorem alike_lineComment {line rest : List Char} (inLine : '\n' ∉ line)
    (noReturns : '\r' ∉ '/' :: (line ++ rest)) (shorter : AlikeUpTo ('/' :: (line ++ rest)).length)
    (ends : EndsLine rest) :
    Alike (lexemes ('/' :: '/' :: (line ++ rest)))
      (lexemes ('/' :: '/' :: (line ++ withReturns rest))) := by
  have inLine' : '\n' ∉ '/' :: line := by simpa using inLine
  have isPiece : extent '/' ('/' :: line ++ rest) = (.comment, ('/' :: line).length + 1) := by
    have isFirst : ∀ c ∈ rest.head?, c = '\n' := by cases ends <;> simp
    rw [List.cons_append, extent_lineComment, runLength_line inLine isFirst, List.length_cons]
    exact congrArg _ (by omega)
  have isPiece' (others : List Char) : extent '/' ('/' :: line ++ '\r' :: '\n' :: others) =
      (.comment, ('/' :: line).length + 2) := by
    have regroup : line ++ '\r' :: '\n' :: others = line ++ ['\r'] ++ '\n' :: others := by simp
    rw [List.cons_append, extent_lineComment, regroup,
      runLength_line (by simpa using inLine) (by simp), List.length_append, List.length_cons]
    exact congrArg _ (by rw [List.length_cons, List.length_nil]; omega)
  exact alike_toLineEnd inLine' noReturns shorter ends isPiece isPiece'

/-- **Up to the first string that is continued, a text is read alike with carriage returns.** -/
theorem alike_withReturns {text : List Char} (noReturns : '\r' ∉ text) :
    Alike (lexemes text) (lexemes (withReturns text)) := by
  match text with
  | [] =>
      rw [withReturns_nil, lexemes_nil]
      exact .nil
  | first :: others =>
      have shorter : AlikeUpTo others.length := fun text _ => alike_withReturns
      rw [List.mem_cons, not_or] at noReturns
      obtain ⟨-, noReturns⟩ := noReturns
      cases start first others with
      | blank isBlank others =>
          rw [lexemes_blank isBlank, lexemes_withReturns_blank isBlank]
          exact shorter (Nat.le_refl _) noReturns
      | string isQuote others =>
          obtain ⟨line, rest, rfl, inLine, ends⟩ := exists_line others
          rw [withReturns_cons (ne_of_isQuote isQuote rfl), withReturns_append,
            withReturns_line inLine]
          exact alike_string inLine noReturns shorter isQuote ends
      | template others =>
          rw [withReturns_cons (by decide)]
          exact alike_template noReturns shorter
      | lineComment others =>
          obtain ⟨line, rest, rfl, inLine, ends⟩ := exists_line others
          rw [withReturns_cons (by decide), withReturns_cons (by decide), withReturns_append,
            withReturns_line inLine]
          exact alike_lineComment inLine noReturns shorter ends
      | blockComment inside =>
          rw [withReturns_cons (by decide), withReturns_cons (by decide)]
          exact alike_blockComment (fun among => noReturns (.tail _ among))
            fun text short => shorter (Nat.le_succ_of_le short)
      | plain plain =>
          have noFeed : first ≠ '\n' := fun same => by simpa [same, isBlank] using plain.noBlank
          obtain ⟨line, rest, rfl, inLine, ends⟩ := exists_line others
          rw [withReturns_cons noFeed, withReturns_append, withReturns_line inLine]
          exact alike_plain inLine noReturns shorter ends plain
termination_by text.length
decreasing_by
  simp only [List.length_cons]
  omega

namespace Alike

variable {found found' : List Lexeme} (alike : Alike found found')

include alike

/-- Where no string is continued, the lexemes are the same. -/
theorem contents_eq (single : ∀ lexeme ∈ found, ¬lexeme.IsContinued) :
    found'.map Lexeme.content = found.map Lexeme.content := by
  induction alike with
  | nil => rfl
  | cons _ same more ih =>
      rw [List.map_cons, List.map_cons, same, ih fun lexeme among => single lexeme (.tail _ among)]
  | broken continued isOpen later later' => exact absurd continued (single _ (.head _))

/-- Where a string is continued and closed, the lexemes are of other kinds. -/
theorem single_of_kinds_eq
    (closed : ∀ lexeme ∈ found, lexeme.IsContinued → lexeme.kind ≠ .invalid)
    (same : found'.map Lexeme.kind = found.map Lexeme.kind) :
    ∀ lexeme ∈ found, ¬lexeme.IsContinued := by
  induction alike with
  | nil => exact fun _ among => nomatch among
  | cons single _ more ih =>
      rw [List.map_cons, List.map_cons, List.cons.injEq] at same
      refine List.forall_mem_cons.2 ⟨single, ih (fun lexeme among => ?_) same.2⟩
      exact closed lexeme (.tail _ among)
  | @broken lexeme lexeme' continued isOpen later later' =>
      rw [List.map_cons, List.map_cons, List.cons.injEq] at same
      have isInvalid : lexeme'.kind = .invalid := by
        rw [Lexeme.kind, isOpen]
        rfl
      exact absurd (same.1 ▸ isInvalid) (closed _ (.head _) continued)

end Alike

end Scanner

namespace TokenList

open Scanner (withReturns lexemes Lexeme)

/-- **Line ends with and without carriage returns are read alike exactly if no string is
continued.** This is so for all texts in which the strings that are continued over a line end are
closed. -/
theorem ofText_withReturns_iff {text : List Char} (noReturns : '\r' ∉ text)
    (closed : ∀ lexeme ∈ lexemes text, lexeme.IsContinued → lexeme.kind ≠ .invalid) :
    ((ofText (withReturns text)).tokens.map Token.kind = (ofText text).tokens.map Token.kind ∧
        (ofText (withReturns text)).faults.map Prod.fst = (ofText text).faults.map Prod.fst) ↔
      ∀ lexeme ∈ lexemes text, ¬lexeme.IsContinued := by
  have alike := Scanner.alike_withReturns noReturns
  rw [kinds_ofText, kinds_ofText, faults_ofText, faults_ofText]
  refine ⟨fun same => alike.single_of_kinds_eq closed same.1, fun single => ?_⟩
  have same := alike.contents_eq single
  have kinds (found : List Lexeme) :
      found.map Lexeme.kind = (found.map Lexeme.content).map Scanner.Content.kind := by
    rw [List.map_map]
    rfl
  have faults (found : List Lexeme) :
      found.filterMap Lexeme.fault? =
        (found.map Lexeme.content).filterMap Scanner.Content.fault? := by
    rw [List.filterMap_map]
    rfl
  rw [kinds, kinds, faults, faults, same]
  exact ⟨rfl, rfl⟩

/-- A line end in a template and one behind a string. -/
theorem ofText_withReturns_iff_template :
    let text := "'a'\n\x60b\nc\x60".toList
    (ofText (withReturns text)).tokens.map Token.kind = (ofText text).tokens.map Token.kind ∧
      (ofText (withReturns text)).faults.map Prod.fst = (ofText text).faults.map Prod.fst := by
  have single : ∀ lexeme ∈ lexemes "'a'\n\x60b\nc\x60".toList, ¬lexeme.IsContinued := by
    decide +kernel
  exact (ofText_withReturns_iff (by decide) fun lexeme among continued =>
    absurd continued (single lexeme among)).2 single

/-- **A string that is continued over a line end is closed without the carriage return only.** -/
theorem continued_string_left_open :
    let text := "'ab\\\ncd'".toList
    '\r' ∉ text ∧ (ofText text).faults = [] ∧
      (ofText text).tokens.map Token.kind = [.string "abcd"] ∧
      (ofText (withReturns text)).faults.map Prod.fst = [.openString, .openString] ∧
      (ofText (withReturns text)).tokens.map Token.kind = [.invalid, .name "cd", .invalid] := by
  decide +kernel

end TokenList

end InjectionCheck
