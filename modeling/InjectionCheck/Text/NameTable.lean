/-!
# Tables of distinct names

A name table gives every distinct text a number, in the order in which the texts
are first met. The empty text always has number zero. The numbers are kept by
text, and the texts by number; both say the same (`Agree`). So two texts have the
same number exactly when they are equal, and a number once given keeps its text.
-/

set_option autoImplicit false

namespace InjectionCheck

/-- A text has a number exactly if it stands at this number. -/
def Agree (numbers : List (String × Nat)) (texts : Array String) : Prop :=
  ∀ text number, numbers.lookup text = some number ↔ texts[number]? = some text

theorem agree_empty : Agree [("", 0)] #[""] := by
  intro text number
  by_cases isEmpty : text = ""
  · subst isEmpty
    cases number <;> simp
  · have other : (text == "") = false := by simpa using isEmpty
    rw [List.lookup_cons, other]
    cases number <;> simp [Ne.symm isEmpty]

/-- **A text that has no number yet may get the next one.** -/
theorem Agree.push {numbers : List (String × Nat)} {texts : Array String}
    (agree : Agree numbers texts) {text : String} (fresh : numbers.lookup text = none) :
    Agree ((text, texts.size) :: numbers) (texts.push text) := by
  intro other number
  rw [List.lookup_cons, Array.getElem?_push]
  by_cases same : other = text
  · subst same
    have absent : texts[number]? ≠ some other := by
      intro stands
      rw [← agree, fresh] at stands
      cases stands
    simp only [BEq.rfl, Option.some.injEq]
    by_cases last : number = texts.size
    · simp [last]
    · simp [last, absent, Ne.symm last]
  · have different : (other == text) = false := by simpa using same
    rw [different]
    by_cases last : number = texts.size
    · simp [last, agree other, Ne.symm same]
    · simp [last, agree other]

/-- The distinct texts met so far, with their numbers. -/
structure NameTable where
  /-- The number of each text. -/
  numbers : List (String × Nat)
  /-- The text of each number. -/
  texts : Array String
  /-- The empty text has number zero. -/
  empty_first : texts[0]? = some ""
  agree : Agree numbers texts

namespace NameTable

/-- The table that has met the empty text only. -/
def empty : NameTable where
  numbers := [("", 0)]
  texts := #[""]
  empty_first := rfl
  agree := agree_empty

instance : Inhabited NameTable := ⟨empty⟩

/-- The number of a text that has been met. -/
def get? (table : NameTable) (text : String) : Option Nat := table.numbers.lookup text

/-- The text of a number. -/
def resolve? (table : NameTable) (number : Nat) : Option String := table.texts[number]?

/-- How many distinct texts have been met. -/
def size (table : NameTable) : Nat := table.texts.size

/-- Whether no text but the empty one has been met. -/
def isEmpty (table : NameTable) : Bool := table.size ≤ 1

/-- The empty text keeps number zero when another text is met. -/
theorem empty_first_push {texts : Array String} (first : texts[0]? = some "") (text : String) :
    (texts.push text)[0]? = some "" := by
  obtain ⟨inside, same⟩ := Array.getElem?_eq_some_iff.1 first
  rw [Array.getElem?_push_lt inside, same]

/-- The table after meeting a text that it has not met before. -/
def push (table : NameTable) (text : String) (fresh : table.get? text = none) : NameTable where
  numbers := (text, table.size) :: table.numbers
  texts := table.texts.push text
  empty_first := empty_first_push table.empty_first text
  agree := table.agree.push fresh

/-- The number of a text, together with the table that has met it. Whoever has
missed the text looks once more, since another may have added it meanwhile. -/
def add (table : NameTable) (text : String) : Nat × NameTable :=
  match known : table.get? text with
  | some number => (number, table)
  | none => (table.size, table.push text known)

/-- The number of a text, together with the table that has met it. A text that has
been met before is only looked up. -/
def intern (table : NameTable) (text : String) : Nat × NameTable :=
  match table.get? text with
  | some number => (number, table)
  | none => table.add text

variable (table : NameTable) (text other : String) (number : Nat)

/-- A text has a number exactly if the number resolves to the text. -/
theorem get?_eq_some_iff : table.get? text = some number ↔ table.resolve? number = some text :=
  table.agree text number

/-- The number of the empty text. -/
theorem get?_empty : table.get? "" = some 0 := (table.get?_eq_some_iff "" 0).2 table.empty_first

/-- To look up a text before it is added makes no difference. -/
theorem intern_eq_add : table.intern text = table.add text := by
  unfold intern add
  split
  · next known => split <;> simp_all
  · rfl

/-- A text that has been met keeps its number, and the table stays as it is. -/
theorem intern_of_get? {table : NameTable} {text : String} {number : Nat}
    (known : table.get? text = some number) : table.intern text = (number, table) := by
  rw [intern, known]

/-- **Interning gives a number to one text and leaves those of the others.** -/
theorem get?_intern : (table.intern text).2.get? other =
    if other = text then some (table.intern text).1 else table.get? other := by
  rw [intern_eq_add]
  unfold add
  split
  · next number known =>
    by_cases same : other = text
    · rw [if_pos same, same, known]
    · rw [if_neg same]
  · rw [get?, push, List.lookup_cons]
    by_cases same : other = text
    · simp [same]
    · have different : (other == text) = false := by simpa using same
      rw [different, if_neg same, get?]

end NameTable

end InjectionCheck
