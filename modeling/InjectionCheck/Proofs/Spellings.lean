import InjectionCheck.Proofs.PoolSketches
import InjectionCheck.Proofs.RedescribedTexts

/-!
# The tokens that types are written with

What a type is written with can be told token by token (`Sketch.spelling`). As long as its names
are names and its strings need no escapes (`Sketch.Legible`), the scanner cuts the written type
into these tokens and finds no fault, whatever follows, unless the last name would go on there
(`Sketch.Legible.spells`).
-/

set_option autoImplicit false

namespace InjectionCheck

/-! ## Cutting a text -/

namespace Scanner

/-- A text is cut into tokens of some kinds, without faults, if a certain rest follows. -/
def Cuts (text : List Char) (kinds : List Kind) (rest : List Char) : Prop :=
  ∀ progress : Progress, ∃ tokens : List Token, tokens.map Token.kind = kinds ∧
    scan (text ++ rest) progress =
      scan rest ⟨tokens.reverse ++ progress.tokens, progress.faults,
        progress.offset + byteLength text⟩

variable {text text' rest : List Char} {kinds kinds' : List Kind}

theorem Cuts.nil (rest : List Char) : Cuts [] [] rest := fun _ => ⟨[], rfl, rfl⟩

theorem Cuts.append (first : Cuts text kinds (text' ++ rest)) (second : Cuts text' kinds' rest) :
    Cuts (text ++ text') (kinds ++ kinds') rest := by
  intro progress
  obtain ⟨tokens, same, scanned⟩ := first progress
  obtain ⟨tokens', same', scanned'⟩ := second
    ⟨tokens.reverse ++ progress.tokens, progress.faults, progress.offset + byteLength text⟩
  refine ⟨tokens ++ tokens', by rw [List.map_append, same, same'], ?_⟩
  rw [List.append_assoc, scanned, scanned', byteLength_append, List.reverse_append,
    List.append_assoc, Nat.add_assoc]

/-- A text that is one piece is cut into the token of the piece. -/
theorem Cuts.of_extent {first : Char} {others : List Char} {kind : Kind}
    (isPiece : extent first (others ++ rest) = (.token kind, others.length + 1)) :
    Cuts (first :: others) [kind] rest := by
  intro progress
  have taken : (piece first (others ++ rest)).taken = first :: others := by
    rw [piece, isPiece]
    simp [cut]
  have left : (piece first (others ++ rest)).rest = rest := by
    rw [piece, isPiece]
    simp [cut]
  have content : (piece first (others ++ rest)).content = .token kind := by
    rw [piece, isPiece]
    rfl
  refine ⟨[⟨kind, ⟨progress.offset, progress.offset + byteLength (first :: others)⟩⟩], rfl, ?_⟩
  rw [List.cons_append, scan, Progress.add, content, left, taken]
  rfl

/-- Blanks are cut off and leave nothing, if no blank follows. -/
theorem Cuts.blank (clean : ∀ c ∈ rest.head?, isBlank c = false) : Cuts [' '] [] rest := by
  intro progress
  have none : runLength isBlank rest = 0 := by
    cases rest with
    | nil => rfl
    | cons c rest => rw [runLength, List.takeWhile_cons, clean c rfl]; rfl
  have isPiece : extent ' ' rest = (.blank, 1) := by
    rw [extent, if_pos (by decide), none]
  refine ⟨[], rfl, ?_⟩
  have left : (piece ' ' rest).rest = rest := by
    rw [piece, isPiece]
    rfl
  have taken : (piece ' ' rest).taken = [' '] := by
    rw [piece, isPiece]
    rfl
  have content : (piece ' ' rest).content = .blank := by
    rw [piece, isPiece]
    rfl
  rw [List.singleton_append, scan, Progress.add, content, left, taken]
  rfl

/-! ## Words -/

/-- Whether a text is a name: a word, possibly behind a number sign, that is not reserved. -/
def isName (text : String) : Bool :=
  (match text.toList with
    | '#' :: first :: others => startsWord first && others.all continuesWord
    | first :: others => startsWord first && others.all continuesWord
    | [] => false) && (Keyword.ofText? text).isNone

/-- A word goes on no further. -/
def EndsWord (rest : List Char) : Prop := ∀ c ∈ rest.head?, continuesWord c = false

theorem runLength_of_endsWord {word : List Char} (all : word.all continuesWord = true)
    (ends : EndsWord rest) : runLength continuesWord (word ++ rest) = word.length := by
  rw [runLength, List.takeWhile_append_of_pos (List.all_eq_true.1 all)]
  cases rest with
  | nil => simp
  | cons c rest => simp [ends c rfl]

theorem wordExtent_eq {first : Char} {others : List Char}
    (all : others.all continuesWord = true) (ends : EndsWord rest) :
    wordExtent first (others ++ rest) =
      (.token (wordKind (first :: others)), others.length + 1) := by
  rw [wordExtent, runLength_of_endsWord all ends, Nat.add_comm 1]
  simp

theorem isBlank_of_startsWord {c : Char} (starts : startsWord c = true) : isBlank c = false := by
  simp only [startsWord, isLetter, isBlank, Bool.or_eq_true, Bool.and_eq_true,
    decide_eq_true_eq, Bool.or_eq_false_iff, decide_eq_false_iff_not] at starts ⊢
  refine ⟨⟨⟨⟨?_, ?_⟩, ?_⟩, ?_⟩, ?_⟩ <;> rintro rfl <;> revert starts <;> decide

theorem cuts_word {first : Char} {others : List Char} (starts : startsWord first = true)
    (all : others.all continuesWord = true) (ends : EndsWord rest) :
    Cuts (first :: others) [wordKind (first :: others)] rest := by
  refine .of_extent ?_
  rw [extent, if_neg (by rw [isBlank_of_startsWord starts]; exact Bool.false_ne_true),
    if_pos starts, wordExtent_eq all ends]

theorem cuts_privateName {first : Char} {others : List Char} (starts : startsWord first = true)
    (all : others.all continuesWord = true) (ends : EndsWord rest) :
    Cuts ('#' :: first :: others) [wordKind ('#' :: first :: others)] rest := by
  refine .of_extent ?_
  have continues : (first :: others).all continuesWord = true := by
    rw [List.all_cons, all, continuesWord, starts]
    rfl
  have isPrivate : extent '#' ((first :: others) ++ rest) =
      numberSignExtent '#' (first :: (others ++ rest)) := rfl
  rw [isPrivate, numberSignExtent, if_pos starts, ← List.cons_append]
  exact wordExtent_eq continues ends

/-- A name is cut off as one. -/
theorem cuts_name {name : String} (isName : isName name = true) (ends : EndsWord rest) :
    Cuts name.toList [.name name] rest := by
  rw [Scanner.isName, Bool.and_eq_true, Option.isNone_iff_eq_none] at isName
  obtain ⟨word, notReserved⟩ := isName
  have kind : wordKind name.toList = .name name := by
    rw [wordKind, String.ofList_toList, notReserved]
  rw [← kind]
  split at word
  · next first others same =>
      rw [Bool.and_eq_true] at word
      rw [same]
      exact cuts_privateName word.1 word.2 ends
  · next first others _ same =>
      rw [Bool.and_eq_true] at word
      rw [same]
      exact cuts_word word.1 word.2 ends
  · cases word

/-! ## Strings and marks -/

/-- Whether a text can stand between quotes as it is. -/
def isPlainText (content : String) : Bool :=
  content.toList.all fun c => c ≠ '"' && c ≠ '\\' && c ≠ '\n'

theorem stringEnd_of_plain {body : List Char}
    (plain : ∀ c ∈ body, c ≠ '"' ∧ c ≠ '\\' ∧ c ≠ '\n') (passed : Nat) :
    stringEnd '"' (body ++ ['"']) passed = ⟨passed + body.length + 1, true⟩ := by
  induction body generalizing passed with
  | nil => rfl
  | cons c body ih =>
      obtain ⟨⟨notQuote, notEscape, notEnd⟩, plain⟩ := List.forall_mem_cons.1 plain
      rw [List.cons_append, stringEnd_cons, if_neg notEscape, if_neg notEnd, if_neg notQuote,
        ih plain, List.length_cons]
      congr 1
      omega

theorem decode_of_plain {body : List Char} (plain : ∀ c ∈ body, c ≠ '\\') :
    Literal.decode body = body := by
  induction body with
  | nil => rw [Literal.decode]
  | cons c body ih =>
      obtain ⟨notEscape, plain⟩ := List.forall_mem_cons.1 plain
      rw [Literal.decode, ih plain]
      all_goals
        intros
        exact absurd ‹c = '\\'› notEscape

/-- A text that needs no escapes is cut off as a string. -/
theorem cuts_string {content : String} (plain : isPlainText content = true) :
    Cuts ('"' :: (content.toList ++ ['"'])) [.string content] rest := by
  have clean : ∀ c ∈ content.toList, c ≠ '"' ∧ c ≠ '\\' ∧ c ≠ '\n' := by
    simpa [isPlainText, and_assoc] using plain
  have closes : Closes '"' content.toList := by
    rw [Closes, stringEnd_of_plain clean, Nat.zero_add]
  refine .of_extent ?_
  have isQuote : isQuote '"' = true := rfl
  have isPiece := extent_string isQuote closes rest
  rw [decode_of_plain fun c inside => (clean c inside).2.1, String.ofList_toList] at isPiece
  rw [List.append_assoc, List.singleton_append, isPiece, List.length_append]
  rfl

end Scanner

/-! ## Texts that spell tokens -/

open Scanner (Cuts EndsWord isBlank continuesWord)

/-- A text is cut into tokens of some kinds, unless what follows goes on with its last word. -/
structure Spells (text : String) (kinds : List Kind) : Prop where
  starts : ∃ first others, text.toList = first :: others ∧ isBlank first = false
  cuts : ∀ rest, EndsWord rest → Cuts text.toList kinds rest

/-- A text of marks and blanks is cut into marks if something follows that is no blank. -/
structure Leads (text : String) (kinds : List Kind) : Prop where
  starts : ∃ first others, text.toList = first :: others ∧ continuesWord first = false
  cuts : ∀ c rest, isBlank c = false → Cuts text.toList kinds (c :: rest)

/-- A text of marks is cut into marks whatever follows. -/
structure Shuts (text : String) (kinds : List Kind) : Prop where
  starts : ∃ first others, text.toList = first :: others ∧ continuesWord first = false
  cuts : ∀ rest, Cuts text.toList kinds rest

theorem endsWord_of_starts {text : String}
    (starts : ∃ first others, text.toList = first :: others ∧ continuesWord first = false)
    (rest : List Char) : EndsWord (text.toList ++ rest) := by
  obtain ⟨first, others, same, ends⟩ := starts
  rw [same]
  intro c isFirst
  cases isFirst
  exact ends

namespace Spells

variable {text text' : String} {kinds kinds' : List Kind}

theorem cuts_before (spells : Spells text kinds) {before : List Char} {kinds' : List Kind}
    (leads : ∀ c rest, isBlank c = false → Cuts before kinds' (c :: rest)) {rest : List Char}
    (ends : EndsWord rest) : Cuts (before ++ text.toList) (kinds' ++ kinds) rest := by
  obtain ⟨first, others, same, notBlank⟩ := spells.starts
  refine .append ?_ (spells.cuts rest ends)
  rw [same]
  exact leads first _ notBlank

/-- Something with marks and blanks in front. -/
theorem lead (spells : Spells text' kinds') (leads : Leads text kinds)
    (notBlank : ∀ c ∈ text.toList.head?, isBlank c = false) :
    Spells (text ++ text') (kinds ++ kinds') where
  starts := by
    obtain ⟨first, others, same, _⟩ := leads.starts
    exact ⟨first, others ++ text'.toList, by rw [String.toList_append, same]; rfl,
      notBlank first (by rw [same]; rfl)⟩
  cuts rest ends := by
    rw [String.toList_append]
    exact spells.cuts_before leads.cuts ends

/-- Something with marks behind. -/
theorem shut (spells : Spells text kinds) (shuts : Shuts text' kinds') :
    Spells (text ++ text') (kinds ++ kinds') where
  starts := by
    obtain ⟨first, others, same, notBlank⟩ := spells.starts
    exact ⟨first, others ++ text'.toList, by rw [String.toList_append, same]; rfl, notBlank⟩
  cuts rest _ := by
    rw [String.toList_append]
    exact .append (spells.cuts _ (endsWord_of_starts shuts.starts rest)) (shuts.cuts rest)

/-- Something, marks and blanks, and something else. -/
theorem join {between : String} {kinds₁ : List Kind} (spells : Spells text kinds)
    (leads : Leads between kinds₁) (spells' : Spells text' kinds') :
    Spells (text ++ between ++ text') (kinds ++ kinds₁ ++ kinds') where
  starts := by
    obtain ⟨first, others, same, notBlank⟩ := spells.starts
    exact ⟨first, others ++ between.toList ++ text'.toList,
      by rw [String.toList_append, String.toList_append, same]; rfl, notBlank⟩
  cuts rest ends := by
    rw [String.toList_append, String.toList_append, List.append_assoc, List.append_assoc]
    refine .append (spells.cuts _ ?_) (spells'.cuts_before leads.cuts ends)
    rw [List.append_assoc]
    exact endsWord_of_starts leads.starts _

/-- Some things with the same marks and blanks between them. -/
theorem intercalate {between : String} {kinds₁ : List Kind} (leads : Leads between kinds₁)
    {texts : List String} {kindss : List (List Kind)} (all : List.Forall₂ Spells texts kindss)
    (nonempty : texts ≠ []) :
    Spells (between.intercalate texts) (kinds₁.intercalate kindss) := by
  induction all with
  | nil => exact absurd rfl nonempty
  | @cons text kinds texts kindss first others ih =>
      cases others with
      | nil =>
          rw [String.intercalate_singleton, List.intercalate_singleton]
          exact first
      | cons second others =>
          rw [String.intercalate_cons_cons, List.intercalate_cons_cons]
          exact first.join leads (ih (List.cons_ne_nil _ _))

end Spells

/-! ## Marks -/

theorem Shuts.leads {text : String} {kinds : List Kind} (shuts : Shuts text kinds) :
    Leads text kinds :=
  ⟨shuts.starts, fun _ _ _ => shuts.cuts _⟩

/-- Two texts of marks, one behind the other. -/
theorem Shuts.append {text text' : String} {kinds kinds' : List Kind} (first : Shuts text kinds)
    (second : Shuts text' kinds') : Shuts (text ++ text') (kinds ++ kinds') where
  starts := by
    obtain ⟨c, others, same, ends⟩ := first.starts
    exact ⟨c, others ++ text'.toList, by rw [String.toList_append, same]; rfl, ends⟩
  cuts rest := by
    rw [String.toList_append]
    exact .append (first.cuts _) (second.cuts rest)

/-- Marks with a blank behind them. -/
theorem Leads.of_spaced {text : String} {kinds : List Kind}
    (starts : ∃ first others, text.toList = first :: others ∧ continuesWord first = false)
    (cuts : ∀ rest, Cuts text.toList kinds (' ' :: rest)) : Leads (text ++ " ") kinds where
  starts := by
    obtain ⟨c, others, same, ends⟩ := starts
    exact ⟨c, others ++ [' '], by rw [String.toList_append, same]; rfl, ends⟩
  cuts c rest clean := by
    rw [String.toList_append, ← List.append_nil kinds]
    refine .append (cuts (c :: rest)) (Cuts.blank fun first isFirst => ?_)
    cases isFirst
    exact clean

/-- Marks with a blank in front of them and behind them. -/
theorem Leads.of_surrounded {text : String} {kinds : List Kind}
    (starts : ∃ first others, text.toList = first :: others ∧ isBlank first = false)
    (cuts : ∀ rest, Cuts text.toList kinds (' ' :: rest)) : Leads (" " ++ text ++ " ") kinds where
  starts := ⟨' ', text.toList ++ [' '], by rw [String.toList_append, String.toList_append]; rfl, rfl⟩
  cuts c rest clean := by
    obtain ⟨first, others, same, notBlank⟩ := starts
    rw [String.toList_append, String.toList_append, ← List.append_nil kinds,
      ← List.nil_append kinds]
    refine .append (.append (Cuts.blank fun c isFirst => ?_) (cuts (c :: rest)))
      (Cuts.blank fun first isFirst => ?_)
    · rw [same] at isFirst
      cases isFirst
      exact notBlank
    · cases isFirst
      exact clean

theorem shuts_lparen : Shuts "(" [.mark .lparen] := ⟨⟨_, _, rfl, rfl⟩, fun _ => .of_extent rfl⟩

theorem shuts_rparen : Shuts ")" [.mark .rparen] := ⟨⟨_, _, rfl, rfl⟩, fun _ => .of_extent rfl⟩

theorem shuts_lbracket : Shuts "[" [.mark .lbracket] := ⟨⟨_, _, rfl, rfl⟩, fun _ => .of_extent rfl⟩

theorem shuts_rbracket : Shuts "]" [.mark .rbracket] := ⟨⟨_, _, rfl, rfl⟩, fun _ => .of_extent rfl⟩

theorem shuts_lbrace : Shuts "\x7b" [.mark .lbrace] := ⟨⟨_, _, rfl, rfl⟩, fun _ => .of_extent rfl⟩

theorem shuts_rbrace : Shuts "\x7d" [.mark .rbrace] := ⟨⟨_, _, rfl, rfl⟩, fun _ => .of_extent rfl⟩

theorem shuts_semicolon : Shuts ";" [.mark .semicolon] :=
  ⟨⟨_, _, rfl, rfl⟩, fun _ => .of_extent rfl⟩

theorem leads_lbrace : Leads "\x7b " [.mark .lbrace] :=
  @Leads.of_spaced "\x7b" _ ⟨_, _, rfl, rfl⟩ fun _ => .of_extent rfl

theorem leads_comma : Leads ", " [.mark .comma] :=
  @Leads.of_spaced "," _ ⟨_, _, rfl, rfl⟩ fun _ => .of_extent rfl

theorem leads_semicolon : Leads "; " [.mark .semicolon] :=
  @Leads.of_spaced ";" _ ⟨_, _, rfl, rfl⟩ fun _ => .of_extent rfl

theorem leads_colon : Leads ": " [.mark .colon] :=
  @Leads.of_spaced ":" _ ⟨_, _, rfl, rfl⟩ fun _ => .of_extent rfl

theorem leads_arrow : Leads " => " [.mark .arrow] :=
  @Leads.of_surrounded "=>" _ ⟨_, _, rfl, rfl⟩ fun _ => .of_extent rfl

theorem leads_pipe : Leads " | " [.mark .pipe] :=
  @Leads.of_surrounded "|" _ ⟨_, _, rfl, rfl⟩ fun _ => .of_extent rfl

theorem leads_amp : Leads " & " [.mark .amp] :=
  @Leads.of_surrounded "&" _ ⟨_, _, rfl, rfl⟩ fun _ => .of_extent rfl

theorem leads_eq : Leads " = " [.mark .eq] :=
  @Leads.of_surrounded "=" _ ⟨_, _, rfl, rfl⟩ fun _ => .of_extent rfl

/-- A blank and a closing brace. -/
theorem shuts_spaced_rbrace : Shuts " \x7d" [.mark .rbrace] :=
  ⟨⟨_, _, rfl, rfl⟩, fun _ =>
    .append (.blank fun _ isFirst => by cases isFirst; rfl) (.of_extent rfl)⟩

/-- Some things with the same marks and blanks between them, in brackets. -/
theorem Spells.listed {opening between closing : String} {kinds kinds₁ kinds₂ : List Kind}
    (opens : Shuts opening kinds) (notBlank : ∀ c ∈ opening.toList.head?, isBlank c = false)
    (leads : Leads between kinds₁) (closes : Shuts closing kinds₂) {texts : List String}
    {kindss : List (List Kind)} (all : List.Forall₂ Spells texts kindss) :
    Spells (opening ++ between.intercalate texts ++ closing)
      (kinds ++ kinds₁.intercalate kindss ++ kinds₂) := by
  cases all with
  | nil =>
      have shuts := opens.append closes
      rw [String.intercalate_nil, String.append_empty, List.intercalate_nil, List.append_nil]
      refine ⟨?_, fun rest _ => shuts.cuts rest⟩
      obtain ⟨first, others, same, _⟩ := opens.starts
      exact ⟨first, others ++ closing.toList, by rw [String.toList_append, same]; rfl,
        notBlank first (by rw [same]; rfl)⟩
  | cons first others =>
      exact (Spells.lead (.intercalate leads (.cons first others) (List.cons_ne_nil _ _))
        opens.leads notBlank).shut closes

/-- What two functions make of the same labels and parts. -/
theorem forall₂_zipWith {α β : Type} {write : α → β → String} {spell : α → β → List Kind}
    {labels : List α} {parts : List β}
    (all : ∀ label ∈ labels, ∀ part ∈ parts, Spells (write label part) (spell label part)) :
    List.Forall₂ Spells (List.zipWith write labels parts) (List.zipWith spell labels parts) := by
  induction labels generalizing parts with
  | nil => simp
  | cons label labels ih =>
      cases parts with
      | nil => simp
      | cons part parts =>
          refine .cons (all label List.mem_cons_self part List.mem_cons_self) (ih ?_)
          exact fun label isLabel part isPart =>
            all label (List.mem_cons_of_mem _ isLabel) part (List.mem_cons_of_mem _ isPart)

/-! ## The tokens of a written type -/

/-- The tokens that a type is written with, depending on what is around it. -/
structure Spelling where
  /-- The type by itself. -/
  text : List Kind
  /-- The type as a member of a union or intersection, or as the element of an array. -/
  operand : List Kind
  /-- The type behind the name of a method. -/
  signature : List Kind

/-- A type that never mixes with what is around it. -/
def Spelling.plain (kinds : List Kind) : Spelling := ⟨kinds, kinds, .mark .colon :: kinds⟩

/-- A type that is put in parentheses where it would mix with what is around it. -/
def Spelling.loose (kinds : List Kind) : Spelling :=
  ⟨kinds, [.mark .lparen] ++ kinds ++ [.mark .rparen], .mark .colon :: kinds⟩

/-- The tokens of a name with the mark of an optional part. -/
def nameKinds (name : String) (optional : Bool) : List Kind :=
  if optional then [.name name, .mark .question] else [.name name]

/-- The tokens of a name with a type behind it. -/
def ParameterLabel.kinds (label : ParameterLabel) (part : Spelling) : List Kind :=
  nameKinds label.name label.optional ++ .mark .colon :: part.text

/-- The tokens of the parameters of a function type. -/
def ParameterLabel.spelling (labels : List ParameterLabel) (parts : List Spelling) : List Kind :=
  [.mark .lparen] ++ [.mark .comma].intercalate (List.zipWith ParameterLabel.kinds labels parts) ++
    [.mark .rparen]

/-- The tokens of a member of an object type. -/
def MemberLabel.kinds (label : MemberLabel) (part : Spelling) : List Kind :=
  nameKinds label.name label.optional ++
    if label.isMethod then part.signature else .mark .colon :: part.text

/-- The tokens of what a recipe makes. -/
def Recipe.spelling (parts : List Spelling) : Recipe → Spelling
  | .unresolved name => .plain [.name name]
  | .stringLiteral content => .plain [.string content]
  | .array =>
    .plain ((parts.map Spelling.operand).headD [] ++ [.mark .lbracket, .mark .rbracket])
  | .tuple =>
    .plain ([.mark .lbracket] ++ [.mark .comma].intercalate (parts.map Spelling.text) ++
      [.mark .rbracket])
  | .union => .loose ([.mark .pipe].intercalate (parts.map Spelling.operand))
  | .intersection => .loose ([.mark .amp].intercalate (parts.map Spelling.operand))
  | .function labels =>
    let parameters := ParameterLabel.spelling labels parts
    let result := (parts.map Spelling.text).getLastD []
    { Spelling.loose (parameters ++ .mark .arrow :: result) with
      signature := parameters ++ .mark .colon :: result }
  | .object labels =>
    .plain ([.mark .lbrace] ++
      [.mark .semicolon].intercalate (List.zipWith MemberLabel.kinds labels parts) ++
      [.mark .rbrace])

/-- The tokens of a type that is not made of others. -/
def Leaf.spelling {κ : Type} : Leaf κ → Spelling
  | .number _ => .plain []
  | .named _ name => .plain [.name name]

/-- The tokens of a type with a sketch. -/
def Sketch.spelling {κ : Type} : Sketch (Leaf κ) → Spelling :=
  fold (fun primitive => .plain [Scanner.wordKind primitive.text.toList]) Leaf.spelling
    fun recipe parts => recipe.spelling parts

@[simp]
theorem Sketch.spelling_make {κ : Type} (recipe : Recipe) (parts : List (Sketch (Leaf κ))) :
    spelling (.make recipe parts) = recipe.spelling (parts.map spelling) :=
  fold_make ..

/-! ## Types that can be read back -/

/-- Whether a name can stand for a type: it is no word that types are made with. -/
def isTypeName (name : String) : Bool :=
  Scanner.isName name && (Primitive.ofKeyword? name).isNone && name ≠ "keyof" && name ≠ "readonly"

namespace Linkage

variable (linkage : Linkage) (file : Nat)

/-- A name of a sketch is a name in the file, for the same declaration. -/
def LegibleLeaf : Leaf Nat → Prop
  | .number _ => False
  | .named number name => isTypeName name = true ∧
    ∃ declaration, linkage.find? file name = some (number, declaration) ∧
      declaration.kind ≠ .binding

/-- What a recipe says besides its parts can be told from what is written in the file. -/
def LegibleRecipe (parts : List (Sketch (Leaf Nat))) : Recipe → Prop
  | .unresolved name => isTypeName name = true ∧ linkage.find? file name = none
  | .stringLiteral content => Scanner.isPlainText content = true
  | .array | .tuple => True
  | .union | .intersection => 2 ≤ parts.length
  | .function labels => ∀ label ∈ labels, Scanner.isName label.name = true
  | .object labels =>
    (labels.map MemberLabel.name).Nodup ∧
      (∀ label ∈ labels, Scanner.isName label.name = true ∧ label.access = .public_) ∧
      ∀ pair ∈ labels.zip parts, pair.1.isMethod = true → pair.2.IsFunction

/-- A sketch can be read back in the file. -/
inductive Legible : Sketch (Leaf Nat) → Prop where
  | known (primitive : Primitive) (notError : primitive ≠ .error) : Legible (.known primitive)
  | use (leaf : Leaf Nat) (legible : linkage.LegibleLeaf file leaf) : Legible (.use leaf)
  | make (recipe : Recipe) (parts : List (Sketch (Leaf Nat)))
      (takes : recipe.Takes parts.length) (legible : linkage.LegibleRecipe file parts recipe)
      (all : ∀ part ∈ parts, Legible part) : Legible (.make recipe parts)

end Linkage

/-! ## What is written is spelled -/

/-- A text goes on after a name with the mark of an optional part. -/
structure Trails (text : String) (kinds : List Kind) : Prop extends Spells text kinds where
  goesOn : ∃ first others, text.toList = first :: others ∧ (first = ':' ∨ first = '(')

/-- A sketch is written with the tokens that it is spelled with. -/
structure Sketch.Spelled {κ : Type} (sketch : Sketch (Leaf κ)) : Prop where
  text : Spells sketch.written.text sketch.spelling.text
  operand : Spells sketch.written.operand sketch.spelling.operand
  signature : Trails sketch.written.signature sketch.spelling.signature

theorem spells_name {name : String} (isName : Scanner.isName name = true) :
    Spells name [.name name] := by
  refine ⟨?_, fun rest ends => Scanner.cuts_name isName ends⟩
  rw [Scanner.isName, Bool.and_eq_true] at isName
  have word := isName.1
  split at word
  · next first others same => exact ⟨_, _, same, rfl⟩
  · next first others _ same =>
      rw [Bool.and_eq_true] at word
      exact ⟨_, _, same, Scanner.isBlank_of_startsWord word.1⟩
  · cases word

theorem spells_typeName {name : String} (isTypeName : isTypeName name = true) :
    Spells name [.name name] := by
  simp only [InjectionCheck.isTypeName, Bool.and_eq_true] at isTypeName
  exact spells_name isTypeName.1.1.1

theorem spells_primitive {primitive : Primitive} (notError : primitive ≠ .error) :
    Spells primitive.text [Scanner.wordKind primitive.text.toList] := by
  cases primitive
  case error => exact absurd rfl notError
  all_goals exact ⟨⟨_, _, rfl, rfl⟩, fun rest ends => Scanner.cuts_word rfl rfl ends⟩

theorem spells_string {content : String} (plain : Scanner.isPlainText content = true) :
    Spells ("\"" ++ content ++ "\"") [.string content] := by
  have text : ("\"" ++ content ++ "\"").toList = '"' :: (content.toList ++ ['"']) := by
    rw [String.toList_append, String.toList_append]
    rfl
  exact ⟨⟨_, _, text, rfl⟩, fun rest _ => text ▸ Scanner.cuts_string plain⟩

/-- A type behind a colon. -/
theorem Spells.trails {text : String} {kinds : List Kind} (spells : Spells text kinds) :
    Trails (": " ++ text) (.mark .colon :: kinds) :=
  { spells.lead leads_colon fun _ isFirst => by cases isFirst; rfl with
    goesOn := ⟨':', ' ' :: text.toList, by rw [String.toList_append]; rfl, .inl rfl⟩ }

/-- A name, possibly with the mark of an optional part, and what goes on after it. -/
theorem Trails.behind {text : String} {kinds : List Kind} (trails : Trails text kinds)
    {name : String} (isName : Scanner.isName name = true) (optional : Bool) :
    Spells (Pool.optionalName name optional ++ text) (nameKinds name optional ++ kinds) := by
  obtain ⟨first, others, same, goesOn⟩ := trails.goesOn
  obtain ⟨c, letters, sameName, notBlank⟩ := (spells_name isName).starts
  constructor
  · refine ⟨c, ?_⟩
    cases optional
    · exact ⟨letters ++ text.toList, by
        rw [String.toList_append, Pool.optionalName, if_neg Bool.false_ne_true, sameName]
        rfl, notBlank⟩
    · exact ⟨letters ++ "?".toList ++ text.toList, by
        rw [String.toList_append, Pool.optionalName, if_pos rfl, String.toList_append, sameName]
        rfl, notBlank⟩
  · intro rest ends
    have behind := trails.cuts rest ends
    cases optional
    · rw [Pool.optionalName, if_neg Bool.false_ne_true, String.toList_append]
      refine .append (Scanner.cuts_name isName ?_) behind
      rw [same]
      rcases goesOn with rfl | rfl <;> exact fun _ isFirst => by cases isFirst; rfl
    · rw [Pool.optionalName, if_pos rfl, String.toList_append, String.toList_append]
      refine .append (.append (Scanner.cuts_name isName ?_) ?_) behind
      · exact fun _ isFirst => by cases isFirst; rfl
      · rw [same]
        rcases goesOn with rfl | rfl <;> exact .of_extent rfl

namespace Sketch.Spelled

variable {κ : Type} {sketch : Sketch (Leaf κ)}

/-- A type that never mixes with what is around it. -/
theorem of_plain {text : String} {kinds : List Kind} (written : sketch.written = .plain text)
    (spelling : sketch.spelling = .plain kinds) (spells : Spells text kinds) :
    sketch.Spelled := by
  constructor <;> rw [written, spelling]
  · exact spells
  · exact spells
  · exact spells.trails

theorem spells_parens {text : String} {kinds : List Kind} (spells : Spells text kinds) :
    Spells ("(" ++ text ++ ")") ([.mark .lparen] ++ kinds ++ [.mark .rparen]) :=
  (spells.lead shuts_lparen.leads fun _ isFirst => by cases isFirst; rfl).shut shuts_rparen

/-- A type that is put in parentheses where it would mix with what is around it. -/
theorem of_loose {text : String} {kinds : List Kind} (written : sketch.written = .loose text)
    (spelling : sketch.spelling = .loose kinds) (spells : Spells text kinds) :
    sketch.Spelled := by
  constructor <;> rw [written, spelling]
  · exact spells
  · exact spells_parens spells
  · exact spells.trails

variable {parts : List (Sketch (Leaf κ))}

theorem forall₂_text (all : ∀ part ∈ parts, part.Spelled) :
    List.Forall₂ Spells ((parts.map written).map Written.text)
      ((parts.map spelling).map Spelling.text) := by
  simp only [List.forall₂_map_left_iff, List.forall₂_map_right_iff, List.forall₂_same]
  exact fun part inside => (all part inside).text

theorem forall₂_operand (all : ∀ part ∈ parts, part.Spelled) :
    List.Forall₂ Spells ((parts.map written).map Written.operand)
      ((parts.map spelling).map Spelling.operand) := by
  simp only [List.forall₂_map_left_iff, List.forall₂_map_right_iff, List.forall₂_same]
  exact fun part inside => (all part inside).operand

/-- The parameters of a function type. -/
theorem spells_parameters {labels : List ParameterLabel}
    (names : ∀ label ∈ labels, Scanner.isName label.name = true)
    (all : ∀ part ∈ parts, part.Spelled) :
    Spells (ParameterLabel.written labels (parts.map written))
      (ParameterLabel.spelling labels (parts.map spelling)) := by
  refine .listed shuts_lparen (fun _ isFirst => by cases isFirst; rfl) leads_comma shuts_rparen ?_
  rw [List.zipWith_map_right, List.zipWith_map_right]
  refine forall₂_zipWith fun label isLabel part isPart => ?_
  rw [String.append_assoc]
  exact (all part isPart).text.trails.behind (names label isLabel) _

/-- Some members in braces. -/
theorem spells_braced {texts : List String} {kindss : List (List Kind)}
    (all : List.Forall₂ Spells texts kindss) :
    Spells (Pool.bracedMembers texts)
      ([.mark .lbrace] ++ [.mark .semicolon].intercalate kindss ++ [.mark .rbrace]) := by
  cases all with
  | nil =>
      exact .listed shuts_lbrace (fun _ isFirst => by cases isFirst; rfl) leads_semicolon
        shuts_rbrace .nil
  | cons first others =>
      refine Spells.shut (.lead (.intercalate leads_semicolon (.cons first others)
        (List.cons_ne_nil _ _)) leads_lbrace fun _ isFirst => ?_) shuts_spaced_rbrace
      cases isFirst
      rfl

/-- The members of an object type. -/
theorem spells_members {labels : List MemberLabel}
    (names : ∀ label ∈ labels, Scanner.isName label.name = true)
    (all : ∀ part ∈ parts, part.Spelled) :
    Spells (Pool.bracedMembers (List.zipWith (fun label part =>
        Pool.optionalName label.name label.optional ++
          if label.isMethod then part.signature else ": " ++ part.text)
        labels (parts.map written)))
      ([.mark .lbrace] ++ [.mark .semicolon].intercalate
        (List.zipWith MemberLabel.kinds labels (parts.map spelling)) ++ [.mark .rbrace]) := by
  rw [List.zipWith_map_right, List.zipWith_map_right]
  refine spells_braced (forall₂_zipWith fun label isLabel part isPart => ?_)
  rw [MemberLabel.kinds]
  split
  · exact (all part isPart).signature.behind (names label isLabel) _
  · exact (all part isPart).text.trails.behind (names label isLabel) _

/-- What a recipe makes of parts is written with the tokens that it is spelled with. -/
theorem make {linkage : Linkage} {file : Nat} {parts : List (Sketch (Leaf Nat))}
    {recipe : Recipe} (takes : recipe.Takes parts.length)
    (legible : linkage.LegibleRecipe file parts recipe) (all : ∀ part ∈ parts, part.Spelled) :
    (Sketch.make recipe parts).Spelled := by
  have written := written_make recipe parts
  have spelling := spelling_make recipe parts
  cases recipe with
  | unresolved name => exact of_plain written spelling (spells_typeName legible.1)
  | stringLiteral content => exact of_plain written spelling (spells_string legible)
  | array =>
      obtain ⟨element, rfl⟩ := List.length_eq_one_iff.1 takes
      exact of_plain written spelling ((all element List.mem_cons_self).operand.shut
        (shuts_lbracket.append shuts_rbracket))
  | tuple =>
      exact of_plain written spelling (.listed shuts_lbracket
        (fun _ isFirst => by cases isFirst; rfl) leads_comma shuts_rbracket (forall₂_text all))
  | union =>
      refine of_loose written spelling (.intercalate leads_pipe (forall₂_operand all) ?_)
      rintro none
      rw [List.map_eq_nil_iff, List.map_eq_nil_iff] at none
      subst none
      cases legible
  | intersection =>
      refine of_loose written spelling (.intercalate leads_amp (forall₂_operand all) ?_)
      rintro none
      rw [List.map_eq_nil_iff, List.map_eq_nil_iff] at none
      subst none
      cases legible
  | function labels =>
      have parameters := spells_parameters legible all
      have result : Spells (((parts.map Sketch.written).map Written.text).getLastD "")
          (((parts.map Sketch.spelling).map Spelling.text).getLastD []) := by
        obtain rfl | ⟨others, result, rfl⟩ := List.eq_nil_or_concat' parts
        · cases takes
        · have last := (all result (List.mem_append_right _ List.mem_cons_self)).text
          simpa only [List.map_append, List.map_cons, List.map_nil, List.getLastD_concat] using last
      have arrow := parameters.join leads_arrow result
      have signature := parameters.join leads_colon result
      rw [List.append_assoc] at arrow signature
      constructor <;> rw [written, spelling]
      · exact arrow
      · exact spells_parens arrow
      · refine { signature with goesOn := ?_ }
        simp only [Recipe.written, ParameterLabel.written, String.toList_append]
        exact ⟨'(', _, rfl, .inr rfl⟩
  | object labels =>
      exact of_plain written spelling (spells_members (fun label isLabel =>
        (legible.2.1 label isLabel).1) all)

end Sketch.Spelled

/-- **A type that can be read back is written with the tokens that it is spelled with.** -/
theorem Linkage.Legible.spelled {linkage : Linkage} {file : Nat} {sketch : Sketch (Leaf Nat)}
    (legible : linkage.Legible file sketch) : sketch.Spelled := by
  induction legible with
  | known primitive notError => exact .of_plain rfl rfl (spells_primitive notError)
  | use leaf legible =>
      cases leaf with
      | number number => exact legible.elim
      | named number name => exact .of_plain rfl rfl (spells_typeName legible.1)
  | make recipe parts takes legible all ih => exact .make takes legible ih

/-! ## Whole texts -/

/-- A text that spells tokens has these tokens and no faults. -/
theorem Spells.ofText {text : String} {kinds : List Kind} (spells : Spells text kinds) :
    (TokenList.ofText text.toList).tokens.map Token.kind = kinds ∧
      (TokenList.ofText text.toList).faults = [] := by
  obtain ⟨tokens, same, scanned⟩ := spells.cuts [] nofun ⟨[], [], 0⟩
  rw [List.append_nil, Scanner.scan] at scanned
  simp only [TokenList.ofText, scanned, List.append_nil, List.reverse_reverse, List.reverse_nil,
    same, and_self]

/-- The declaration of a name for a type. -/
def aliasText (type : String) : String := "type X = " ++ type ++ ";"

/-- The tokens of the declaration of a name for a type. -/
def aliasKinds (type : List Kind) : List Kind :=
  .name "type" :: .name "X" :: .mark .eq :: type ++ [.mark .semicolon]

/-- The declaration of a name for a type is written with its tokens. -/
theorem Spells.declared {text : String} {kinds : List Kind} (spells : Spells text kinds) :
    Spells (aliasText text) (aliasKinds kinds) := by
  have start : Spells "type X" [.name "type", .name "X"] := by
    refine ⟨⟨_, _, rfl, rfl⟩, fun rest ends => ?_⟩
    have word : Scanner.Cuts "type".toList [.name "type"] ([' ', 'X'] ++ rest) :=
      Scanner.cuts_word rfl rfl fun _ isFirst => by cases isFirst; rfl
    have blank : Scanner.Cuts [' '] [] (['X'] ++ rest) :=
      .blank fun _ isFirst => by cases isFirst; rfl
    have name : Scanner.Cuts ['X'] [.name "X"] rest := Scanner.cuts_word rfl rfl ends
    exact word.append (blank.append name)
  exact (start.join leads_eq spells).shut shuts_semicolon

end InjectionCheck
