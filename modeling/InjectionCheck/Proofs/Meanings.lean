import InjectionCheck.Proofs.ClassBases
import InjectionCheck.Proofs.PoolSketches
import Mathlib.Logic.Relation

/-!
# What declarations mean

The meaning of a declaration is told without a table of what is known: an alias or a binding means
what its sketch says of the meanings that it uses, and inside itself it cannot be determined. What
lowering gives depends on what was lowered before: a declaration that was lowered while another one
was in progress is remembered as it was seen from there. A declaration is untangled if different
declarations that it reaches reach each other only where each of them is another name for the next
one, so that no circle of them passes through a type constructor. Such a declaration always gets its
meaning (`givesOne_lowerDeclaration`), however the table came about: in a circle of names every
declaration is an error, from wherever it is seen (`Untangled.meaning_of_circles`).
-/

set_option autoImplicit false

namespace InjectionCheck

/-! ## The value of a sketch -/

/-- Lists with the same images are taken to the same list where this holds of their members. -/
theorem map_eq_map_of_map_eq {α β γ δ : Type} {look : α → γ} {look' : β → γ} {take : α → δ}
    {take' : β → δ} {items : List α} {items' : List β}
    (alike : ∀ item ∈ items, ∀ item' ∈ items', look item = look' item' → take item = take' item')
    (same : items.map look = items'.map look') : items.map take = items'.map take' := by
  induction items generalizing items' with
  | nil => rw [List.map_eq_nil_iff.1 same.symm]; rfl
  | cons item items ih =>
      cases items' with
      | nil => cases same
      | cons item' items' =>
          obtain ⟨first, rest⟩ := List.cons.inj same
          rw [List.map_cons, List.map_cons,
            alike item List.mem_cons_self item' List.mem_cons_self first,
            ih (fun one inside other inside' => alike one (List.mem_cons_of_mem _ inside) other
              (List.mem_cons_of_mem _ inside')) rest]

namespace Sketch

variable {α β κ ν : Type} [DecidableEq κ]

/-- The sketch that a sketch stands for, given the sketches of what it uses. -/
def value (meaning : α → Sketch κ) : Sketch α → Sketch κ :=
  fold .known meaning fun recipe parts => recipe.sketch parts

@[simp]
theorem value_make (meaning : α → Sketch κ) (recipe : Recipe) (parts : List (Sketch α)) :
    value meaning (.make recipe parts) = recipe.sketch (parts.map (value meaning)) :=
  fold_make ..

/-- Sketches that are the same up to what their uses are called stand for the same. -/
theorem value_congr {look : α → ν} {look' : β → ν} {meaning : α → Sketch κ}
    {meaning' : β → Sketch κ} {sketch : Sketch α} {sketch' : Sketch β}
    (same : sketch.map look = sketch'.map look')
    (alike : ∀ target ∈ sketch.uses, ∀ target' ∈ sketch'.uses, look target = look' target' →
      meaning target = meaning' target') :
    sketch.value meaning = sketch'.value meaning' := by
  induction sketch using induction_on generalizing sketch' with
  | known primitive =>
      cases sketch' with
      | known primitive' => cases same; rfl
      | use target' => cases same
      | make recipe' parts' => rw [map_make] at same; cases same
  | use target =>
      cases sketch' with
      | known primitive' => cases same
      | use target' =>
          exact alike target (List.mem_singleton.2 rfl) target' (List.mem_singleton.2 rfl)
            (use.inj same)
      | make recipe' parts' => rw [map_make] at same; cases same
  | make recipe parts ih =>
      cases sketch' with
      | known primitive' => rw [map_make] at same; cases same
      | use target' => rw [map_make] at same; cases same
      | make recipe' parts' =>
          rw [map_make, map_make] at same
          obtain ⟨rfl, sameParts⟩ := make.inj same
          rw [value_make, value_make]
          refine congrArg (recipe.sketch ·) (map_eq_map_of_map_eq ?_ sameParts)
          intro part inside part' inside' samePart
          refine ih part inside samePart fun target isUse target' isUse' => ?_
          rw [uses_make, uses_make] at alike
          exact alike target (List.mem_flatMap.2 ⟨part, inside, isUse⟩) target'
            (List.mem_flatMap.2 ⟨part', inside', isUse'⟩)

theorem value_congr_left {meaning meaning' : α → Sketch κ} {sketch : Sketch α}
    (alike : ∀ target ∈ sketch.uses, meaning target = meaning' target) :
    sketch.value meaning = sketch.value meaning' := by
  have same : sketch.map id = sketch.map id := rfl
  refine value_congr same fun target isUse target' _ sameTarget => ?_
  exact alike target isUse |>.trans (congrArg meaning' sameTarget)

end Sketch

/-! ## What declarations contain -/

/-- What a declaration goes by, wherever it stands in its file. -/
inductive DeclarationKey where
  | declared (file : Nat) (name : String)
  | undeclared (number : Nat)
deriving DecidableEq

namespace Linkage

variable (linkage : Linkage)

/-- What the declaration with a number goes by. -/
def key (number : Nat) : DeclarationKey :=
  match linkage.declarations[number]? with
  | some declaration => .declared declaration.file declaration.name
  | none => .undeclared number

/-- The sketch of the type that an alias names or a binding has. -/
def contents? (declaration : Declaration) : Option (Sketch Nat) :=
  match declaration.form with
  | .classType _ | .interfaceType _ => none
  | .typeAlias form => some (linkage.sketch declaration.file form.type)
  | .binding form =>
    match form.type, form.initial with
    | some type, _ => some (linkage.sketch declaration.file type)
    | none, some initial =>
      match linkage.inferred declaration.file initial with
      | .inl primitive => some (.known primitive)
      | .inr constructed => some (.use constructed)
    | none, none => some (.known .any)

variable {linkage} {declaration : Declaration} {contents : Sketch Nat}

theorem fits_contents? (found : linkage.contents? declaration = some contents) : contents.Fits := by
  unfold contents? at found
  split at found
  · cases found
  · cases found
  · cases found
    exact linkage.fits_sketch _ _
  · split at found
    · cases found
      exact linkage.fits_sketch _ _
    · split at found
      · cases found
        exact Sketch.fits_known _
      · cases found
        exact Sketch.fits_use _
    · cases found
      exact Sketch.fits_known _

variable (linkage)

/-- **A declaration that is not known gets the type of its contents**, or the type of its
instances. -/
theorem lowerDeclaration_eq (path : List Nat) (table : TypeTable) (number : Nat) :
    linkage.lowerDeclaration path table number =
      match table.known? number with
      | some type => (type, table)
      | none =>
        match linkage.declarations[number]? with
        | none => (.error, table)
        | some declaration =>
          match linkage.contents? declaration with
          | none =>
            let (type, table) := table.make (·.named number declaration.name)
            (type, table.learn number type)
          | some contents =>
            if number ∈ path then (.error, table)
            else
              let (type, table) := contents.lower (linkage.lowerDeclaration (number :: path)) table
              (type, table.learn number type) := by
  rw [lowerDeclaration.eq_def]
  cases table.known? number with
  | some type => rfl
  | none =>
      by_cases inside : number < linkage.declarations.size
      · rw [dif_pos inside, Array.getElem?_eq_getElem inside]
        dsimp only
        generalize linkage.declarations[number] = declaration
        obtain ⟨file, item, exported, form⟩ := declaration
        cases form with
        | classType form => rfl
        | interfaceType form => rfl
        | typeAlias form =>
            simp only [contents?, lower_eq, dite_eq_ite, ite_not]
        | binding form =>
            obtain ⟨name, span, type, initial⟩ := form
            simp only [contents?, dite_eq_ite]
            rw [ite_not]
            cases type with
            | some type => simp only [lower_eq]
            | none =>
                cases initial with
                | none => rfl
                | some initial =>
                    dsimp only
                    cases linkage.inferred file initial <;> rfl
      · rw [dif_neg inside, Array.getElem?_eq_none (Nat.not_lt.1 inside)]

/-! ## Meanings -/

/-- What a declaration means inside the declarations of a path: an alias or a binding means what
its contents say of the meanings that they use, and inside itself it is an error. -/
def meaning (path : List Nat) (number : Nat) : Sketch (Leaf DeclarationKey) :=
  match inside : linkage.declarations[number]? with
  | none => .known .error
  | some declaration =>
    match linkage.contents? declaration with
    | none => .use (.named (linkage.key number) declaration.name)
    | some contents =>
      if fresh : number ∉ path then
        have := unvisited_cons_lt
          (List.mem_range.2 (Array.getElem?_eq_some_iff.1 inside).1) fresh
        contents.value fun other => meaning (number :: path) other
      else .known .error
termination_by unvisited linkage.numbers path

/-- What the declaration with a number contains. -/
def contentsAt? (number : Nat) : Option (Sketch Nat) :=
  linkage.declarations[number]?.bind linkage.contents?

variable {linkage} {path : List Nat} {number : Nat}

theorem meaning_of_undeclared (undeclared : linkage.declarations[number]? = none) :
    linkage.meaning path number = .known .error := by
  rw [meaning]
  split
  · rfl
  · next declared => rw [undeclared] at declared; cases declared

theorem meaning_of_instances (declared : linkage.declarations[number]? = some declaration)
    (none : linkage.contents? declaration = none) :
    linkage.meaning path number = .use (.named (linkage.key number) declaration.name) := by
  rw [meaning]
  split
  · next undeclared => rw [undeclared] at declared; cases declared
  · next other found =>
      rw [declared] at found
      cases found
      rw [none]

theorem meaning_of_contents (has : linkage.contentsAt? number = some contents)
    (fresh : number ∉ path) :
    linkage.meaning path number = contents.value (linkage.meaning (number :: path)) := by
  obtain ⟨declaration, declared, some⟩ := Option.bind_eq_some_iff.1 has
  rw [meaning]
  split
  · next undeclared => rw [undeclared] at declared; cases declared
  · next other found =>
      rw [declared] at found
      cases found
      rw [some]
      exact dif_pos fresh

theorem meaning_of_mem (has : linkage.contentsAt? number = some contents)
    (inside : number ∈ path) : linkage.meaning path number = .known .error := by
  obtain ⟨declaration, declared, some⟩ := Option.bind_eq_some_iff.1 has
  rw [meaning]
  split
  · rfl
  · next other found =>
      rw [declared] at found
      cases found
      rw [some]
      exact dif_neg (not_not_intro inside)

variable {table : TypeTable}

theorem lowerDeclaration_of_known {type : TypeIndex} (known : table.known? number = some type) :
    linkage.lowerDeclaration path table number = (type, table) := by
  rw [lowerDeclaration_eq, known]

/-- Inside itself an alias or a binding is an error. -/
theorem lowerDeclaration_of_mem (unknown : table.known? number = none)
    (has : linkage.contentsAt? number = some contents) (inside : number ∈ path) :
    linkage.lowerDeclaration path table number = (.error, table) := by
  obtain ⟨declaration, declared, some⟩ := Option.bind_eq_some_iff.1 has
  rw [lowerDeclaration_eq, unknown, declared]
  dsimp only
  rw [some]
  exact if_pos inside

theorem lowerDeclaration_of_contents (unknown : table.known? number = none)
    (has : linkage.contentsAt? number = some contents) (fresh : number ∉ path) :
    linkage.lowerDeclaration path table number =
      let made := contents.lower (linkage.lowerDeclaration (number :: path)) table
      (made.1, made.2.learn number made.1) := by
  obtain ⟨declaration, declared, some⟩ := Option.bind_eq_some_iff.1 has
  rw [lowerDeclaration_eq, unknown, declared]
  dsimp only
  rw [some]
  exact if_neg fresh

/-! ## Declarations that reach each other -/

variable (linkage)

/-- The contents of a declaration use another declaration. -/
def Refers (number other : Nat) : Prop :=
  ∃ contents, linkage.contentsAt? number = some contents ∧ other ∈ contents.uses

/-- A declaration uses another one, by itself or through declarations between them. -/
def Reaches : Nat → Nat → Prop := Relation.ReflTransGen linkage.Refers

/-- A declaration is another name for a declaration. -/
def Renames (number : Nat) : Prop := ∃ target, linkage.contentsAt? number = some (.use target)

/-- A declaration and a different one reach each other. -/
def Circles (number : Nat) : Prop :=
  ∃ other, number ≠ other ∧ linkage.Reaches number other ∧ linkage.Reaches other number

/-- Of the declarations that a declaration reaches, different ones reach each other only as names
for each other. -/
def Untangled (number : Nat) : Prop :=
  ∀ reached, linkage.Reaches number reached → linkage.Circles reached → linkage.Renames reached

variable {linkage} {other : Nat}

theorem Untangled.of_reaches (untangled : linkage.Untangled number)
    (reaches : linkage.Reaches number other) : linkage.Untangled other :=
  fun reached behind => untangled reached (reaches.trans behind)

theorem reaches_of_mem_uses (has : linkage.contentsAt? number = some contents)
    (isUse : other ∈ contents.uses) : linkage.Reaches number other :=
  .single ⟨contents, has, isUse⟩

/-- In a circle of names the next declaration is in the circle, too. -/
theorem Circles.of_use {target : Nat} (circles : linkage.Circles number)
    (has : linkage.contentsAt? number = some (.use target)) : linkage.Circles target := by
  obtain ⟨other, differs, there, back⟩ := circles
  obtain same | ⟨next, ⟨contents, has', isNext⟩, onward⟩ := there.cases_head
  · exact absurd same differs
  · cases has.symm.trans has'
    obtain rfl := List.mem_singleton.1 isNext
    refine ⟨number, ?_, onward.trans back, .single ⟨_, has, isNext⟩⟩
    rintro rfl
    -- the only way on from the declaration leads back to it, and never to the other one
    have stays : ∀ last, linkage.Reaches next last → next = last := by
      intro last reaches
      induction reaches with
      | refl => rfl
      | tail _ refers ih =>
          subst ih
          obtain ⟨_, has', isUse⟩ := refers
          cases has.symm.trans has'
          exact (List.mem_singleton.1 isUse).symm
    exact differs (stays other there)

theorem rank_le_of_reaches {rank : Nat → Nat}
    (falls : ∀ first second, linkage.Refers first second → rank second ≤ rank first)
    (reaches : linkage.Reaches number other) : rank other ≤ rank number := by
  induction reaches with
  | refl => exact Nat.le_refl _
  | tail _ refers ih => exact Nat.le_trans (falls _ _ refers) ih

/-- Declarations that refer to none of a higher rank, and to others of the same rank only as their
names, are untangled. -/
theorem untangled_of_rank (rank : Nat → Nat)
    (falls : ∀ first second, linkage.Refers first second → rank second ≤ rank first ∧
      (linkage.Renames first ∨ first = second ∨ rank second < rank first))
    (number : Nat) : linkage.Untangled number := by
  rintro reached - ⟨other, differs, there, back⟩
  by_contra notName
  have below : ∀ last, linkage.Reaches reached last →
      reached = last ∨ rank last < rank reached := by
    intro last reaches
    induction reaches with
    | refl => exact .inl rfl
    | tail _ refers ih =>
        obtain ⟨atMost, ways⟩ := falls _ _ refers
        obtain rfl | less := ih
        · exact ways.resolve_left notName
        · exact .inr (Nat.lt_of_le_of_lt atMost less)
  have less := (below other there).resolve_left differs
  exact absurd (rank_le_of_reaches (fun first second refers => (falls first second refers).1) back)
    (Nat.not_le.2 less)

/-! ## Meanings in two linkages -/

/-- Declarations that go by the same in two linkages have the same contents, up to the numbers of
declarations. -/
structure Alike (first second : Linkage) : Prop where
  keys : Function.Injective first.key
  keys' : Function.Injective second.key
  contents : ∀ number number', first.key number = second.key number' →
    (first.contentsAt? number).map (Sketch.map first.key) =
      (second.contentsAt? number').map (Sketch.map second.key)

theorem Alike.refl (keys : Function.Injective linkage.key) : linkage.Alike linkage :=
  ⟨keys, keys, fun number number' same => by rw [keys same]⟩

theorem declared_of_key {file : Nat} {name : String}
    (same : linkage.key number = .declared file name) :
    ∃ declaration, linkage.declarations[number]? = some declaration ∧
      declaration.file = file ∧ declaration.name = name := by
  unfold key at same
  split at same
  · next declaration declared =>
      cases same
      exact ⟨declaration, declared, rfl, rfl⟩
  · cases same

theorem key_of_declared (declared : linkage.declarations[number]? = some declaration) :
    linkage.key number = .declared declaration.file declaration.name := by
  rw [key, declared]

theorem key_of_undeclared (undeclared : linkage.declarations[number]? = none) :
    linkage.key number = .undeclared number := by
  rw [key, undeclared]

theorem contentsAt?_of_declared (declared : linkage.declarations[number]? = some declaration) :
    linkage.contentsAt? number = linkage.contents? declaration := by
  rw [contentsAt?, declared, Option.bind_some]

/-- **A declaration means the same in linkages that are alike**, inside declarations of which it
reaches the same ones. -/
theorem Alike.meaning_eq {first second : Linkage} (alike : first.Alike second)
    {path path' : List Nat} {number number' : Nat} (same : first.key number = second.key number')
    (paths : ∀ reached reached', first.Reaches number reached →
      first.key reached = second.key reached' → (reached ∈ path ↔ reached' ∈ path')) :
    first.meaning path number = second.meaning path' number' := by
  induction left : unvisited first.numbers path using Nat.strongRecOn
    generalizing path path' number number' with
  | _ left ih =>
      subst left
      have contents := alike.contents number number' same
      cases declared : first.declarations[number]? with
      | none =>
          rw [key_of_undeclared declared] at same
          cases declared' : second.declarations[number']? with
          | none => rw [meaning_of_undeclared declared, meaning_of_undeclared declared']
          | some declaration' => rw [key_of_declared declared'] at same; cases same
      | some declaration =>
          obtain ⟨declaration', declared', -, sameName⟩ :=
            declared_of_key (same.symm.trans (key_of_declared declared))
          rw [contentsAt?_of_declared declared, contentsAt?_of_declared declared'] at contents
          cases found : first.contents? declaration with
          | none =>
              rw [found, Option.map_none, eq_comm, Option.map_eq_none_iff] at contents
              rw [meaning_of_instances declared found, meaning_of_instances declared' contents,
                same, sameName]
          | some own =>
              rw [found, Option.map_some, eq_comm, Option.map_eq_some_iff] at contents
              obtain ⟨own', found', sameOwn⟩ := contents
              have has := (contentsAt?_of_declared declared).trans found
              have has' := (contentsAt?_of_declared declared').trans found'
              have onPath := paths number number' .refl same
              by_cases inside : number ∈ path
              · rw [meaning_of_mem has inside, meaning_of_mem has' (onPath.1 inside)]
              · rw [meaning_of_contents has inside,
                  meaning_of_contents has' (fun inside' => inside (onPath.2 inside'))]
                refine Sketch.value_congr sameOwn.symm fun target isUse target' _ sameTarget => ?_
                have less : unvisited first.numbers (number :: path) < _ := unvisited_cons_lt
                  (List.mem_range.2 (Array.getElem?_eq_some_iff.1 declared).1) inside
                refine ih _ less sameTarget (fun reached reached' reaches sameReached => ?_) rfl
                rw [List.mem_cons, List.mem_cons, paths reached reached'
                  ((reaches_of_mem_uses has isUse).trans reaches) sameReached]
                refine or_congr_left ⟨?_, ?_⟩
                · rintro rfl
                  exact alike.keys' (sameReached.symm.trans same)
                · rintro rfl
                  exact alike.keys (sameReached.trans same.symm)

/-- What a declaration refers to goes by the same in a linkage that is alike. -/
theorem Alike.exists_refers {first second : Linkage} (alike : first.Alike second)
    {number number' other' : Nat} (same : first.key number = second.key number')
    (refers : second.Refers number' other') :
    ∃ other, first.Refers number other ∧ first.key other = second.key other' := by
  obtain ⟨contents', has', isUse'⟩ := refers
  have sameContents := alike.contents number number' same
  rw [has', Option.map_some, Option.map_eq_some_iff] at sameContents
  obtain ⟨contents, has, sameSketch⟩ := sameContents
  have uses := congrArg Sketch.uses sameSketch
  rw [Sketch.uses_map, Sketch.uses_map] at uses
  obtain ⟨other, isUse, sameOther⟩ := List.mem_map.1 (uses ▸ List.mem_map_of_mem isUse')
  exact ⟨other, ⟨contents, has, isUse⟩, sameOther⟩

theorem Alike.exists_reaches {first second : Linkage} (alike : first.Alike second)
    {number number' other' : Nat} (same : first.key number = second.key number')
    (reaches : second.Reaches number' other') :
    ∃ other, first.Reaches number other ∧ first.key other = second.key other' := by
  induction reaches with
  | refl => exact ⟨number, .refl, same⟩
  | tail _ refers ih =>
      obtain ⟨between, before, sameBetween⟩ := ih
      obtain ⟨other, last, sameOther⟩ := alike.exists_refers sameBetween refers
      exact ⟨other, before.tail last, sameOther⟩

/-- What is another name for a declaration is so in every linkage that is alike. -/
theorem Alike.renames {first second : Linkage} (alike : first.Alike second)
    {number number' : Nat} (same : first.key number = second.key number')
    (renames : first.Renames number) : second.Renames number' := by
  obtain ⟨target, has⟩ := renames
  have sameContents := alike.contents number number' same
  rw [has, Option.map_some, eq_comm, Option.map_eq_some_iff] at sameContents
  obtain ⟨contents', has', sameSketch⟩ := sameContents
  cases contents' with
  | known primitive => cases sameSketch
  | use target' => exact ⟨target', has'⟩
  | make recipe parts =>
      rw [Sketch.map_make] at sameSketch
      cases sameSketch

/-- A declaration is untangled in every linkage that is alike. -/
theorem Alike.untangled {first second : Linkage} (alike : first.Alike second)
    {number number' : Nat} (same : first.key number = second.key number')
    (untangled : first.Untangled number) : second.Untangled number' := by
  rintro reached' toReached' ⟨other', differs', there', back'⟩
  obtain ⟨reached, toReached, sameReached⟩ := alike.exists_reaches same toReached'
  obtain ⟨other, there, sameOther⟩ := alike.exists_reaches sameReached there'
  obtain ⟨again, back, sameAgain⟩ := alike.exists_reaches sameOther back'
  obtain rfl : again = reached := alike.keys (sameAgain.trans sameReached.symm)
  refine alike.renames sameReached (untangled again toReached ⟨other, ?_, there, back⟩)
  rintro rfl
  exact differs' (alike.keys' (sameReached.symm.trans sameOther))

/-- The path matters to a declaration only as far as the declaration reaches it. -/
theorem meaning_eq_of_not_reaches (keys : Function.Injective linkage.key)
    (apart : ∀ visited ∈ path, ¬linkage.Reaches number visited) :
    linkage.meaning path number = linkage.meaning [] number := by
  refine (Alike.refl keys).meaning_eq rfl fun reached reached' reaches same => ?_
  cases keys same
  exact iff_of_false (fun inside => apart reached inside reaches) List.not_mem_nil

/-- **In a circle of names every declaration is an error**, from wherever it is seen: following the
names leads round the circle, and sooner or later to a declaration inside of which one is. -/
theorem Untangled.meaning_of_circles (untangled : linkage.Untangled number)
    (circles : linkage.Circles number) (path : List Nat) :
    linkage.meaning path number = .known .error := by
  induction left : unvisited linkage.numbers path using Nat.strongRecOn
    generalizing path number with
  | _ left ih =>
      subst left
      obtain ⟨target, has⟩ := untangled number .refl circles
      by_cases inside : number ∈ path
      · exact meaning_of_mem has inside
      · obtain ⟨declaration, declared, -⟩ := Option.bind_eq_some_iff.1 has
        have less : unvisited linkage.numbers (number :: path) < _ := unvisited_cons_lt
          (List.mem_range.2 (Array.getElem?_eq_some_iff.1 declared).1) inside
        rw [meaning_of_contents has inside]
        exact ih _ less (untangled.of_reaches (reaches_of_mem_uses has (List.mem_singleton.2 rfl)))
          (circles.of_use has) (number :: path) rfl

/-- An untangled declaration means what its contents say of the meanings outside of it. -/
theorem Untangled.meaning_eq (keys : Function.Injective linkage.key)
    (untangled : linkage.Untangled number) (has : linkage.contentsAt? number = some contents) :
    linkage.meaning [] number = contents.value fun target =>
      if target = number then .known .error else linkage.meaning [] target := by
  rw [meaning_of_contents has List.not_mem_nil]
  refine Sketch.value_congr_left fun target isUse => ?_
  have step := reaches_of_mem_uses has isUse
  by_cases same : target = number
  · rw [if_pos same, same, meaning_of_mem has List.mem_cons_self]
  · rw [if_neg same]
    by_cases back : linkage.Reaches target number
    · have circles : linkage.Circles target := ⟨number, same, back, step⟩
      have untangled := untangled.of_reaches step
      rw [untangled.meaning_of_circles circles, untangled.meaning_of_circles circles]
    · exact meaning_eq_of_not_reaches keys (List.forall_mem_singleton.2 back)

/-! ## What lowering gives -/

variable (linkage)

/-- What is known of declarations is in use, and of untangled declarations it is what they mean. -/
structure Sound (table : TypeTable) : Prop where
  inUse : ∀ number type, table.known? number = some type → type.number < table.pool.size
  means : ∀ number type, table.known? number = some type → linkage.Untangled number →
    table.pool.sketchBy linkage.key type = linkage.meaning [] number

/-- A step of lowering, while the declarations of a path are in progress: it adds types, and what
is known afterwards is right. -/
structure Keeps (path : List Nat) (table after : TypeTable) : Prop where
  grows : table.pool.Grows after.pool
  sound : linkage.Sound after
  inProgress : ∀ visited ∈ path, after.known? visited = none

/-- A step of lowering that gives some types, which on a condition have some sketches. -/
structure Gives (path : List Nat) (table : TypeTable) (made : List TypeIndex × TypeTable)
    (condition : Prop) (sketches : List (Sketch (Leaf DeclarationKey))) : Prop
    extends linkage.Keeps path table made.2 where
  inUse : ∀ type ∈ made.1, type.number < made.2.pool.size
  sketched : condition → made.1.map (made.2.pool.sketchBy linkage.key) = sketches

/-- A step of lowering that gives a type, which on a condition has some sketch. -/
structure GivesOne (path : List Nat) (table : TypeTable) (made : TypeIndex × TypeTable)
    (condition : Prop) (sketch : Sketch (Leaf DeclarationKey)) : Prop
    extends linkage.Keeps path table made.2 where
  inUse : made.1.number < made.2.pool.size
  sketched : condition → made.2.pool.sketchBy linkage.key made.1 = sketch

variable {linkage} {table between after : TypeTable} {condition : Prop}

theorem GivesOne.mono {made : TypeIndex × TypeTable} {sketch : Sketch (Leaf DeclarationKey)}
    {stronger : Prop} (gives : linkage.GivesOne path table made condition sketch)
    (implies : stronger → condition) : linkage.GivesOne path table made stronger sketch :=
  { gives with sketched := fun holds => gives.sketched (implies holds) }

theorem Keeps.refl (sound : linkage.Sound table)
    (inProgress : ∀ visited ∈ path, table.known? visited = none) :
    linkage.Keeps path table table :=
  ⟨.refl _, sound, inProgress⟩

theorem Keeps.trans (first : linkage.Keeps path table between)
    (second : linkage.Keeps path between after) : linkage.Keeps path table after :=
  ⟨first.grows.trans second.grows, second.sound, second.inProgress⟩

/-- Making a type only adds to the pool. -/
theorem Keeps.make (before : linkage.Keeps path table between)
    {constructor : Pool → TypeIndex × Pool}
    (grows : between.pool.Grows (constructor between.pool).2) :
    linkage.Keeps path table (between.make constructor).2 where
  grows := before.grows.trans grows
  sound :=
    { inUse := fun number type known =>
        Nat.lt_of_lt_of_le (before.sound.inUse number type known) grows.size_le
      means := fun number type known untangled =>
        (grows.sketchBy_eq linkage.key type (before.sound.inUse number type known)).trans
          (before.sound.means number type known untangled) }
  inProgress := before.inProgress

/-- **Lowering a sketch gives a type of its value**, if lowering a declaration that it uses gives a
type of what the declaration stands for. -/
theorem givesOne_sketch (keys : Function.Injective linkage.key)
    {lowerUse : TypeTable → Nat → TypeIndex × TypeTable}
    {means : Nat → Sketch (Leaf DeclarationKey)} {sketch : Sketch Nat} (fits : sketch.Fits)
    (uses : ∀ target ∈ sketch.uses, ∀ table, linkage.Keeps path table table →
      linkage.GivesOne path table (lowerUse table target) condition (means target))
    (keeps : linkage.Keeps path table table) :
    linkage.GivesOne path table (sketch.lower lowerUse table) condition (sketch.value means) := by
  induction sketch using Sketch.induction_on generalizing table with
  | known primitive =>
      have made := table.pool.makes_ofPrimitive linkage.key primitive
      exact { keeps with inUse := made.inUse, sketched := fun _ => made.sketch_eq }
  | use target => exact uses target (List.mem_singleton.2 rfl) table keeps
  | make recipe parts ih =>
      obtain ⟨takes, fitParts⟩ := Sketch.fits_make.1 fits
      have all : ∀ some ⊆ parts, ∀ table, linkage.Keeps path table table →
          linkage.Gives path table (Sketch.lowerAll lowerUse some table) condition
            (some.map (Sketch.value means)) := by
        intro some inside
        induction some with
        | nil =>
            exact fun table keeps => { keeps with inUse := nofun, sketched := fun _ => rfl }
        | cons part others ihOthers =>
            intro table keeps
            have isPart := inside List.mem_cons_self
            have first := ih part isPart (fitParts part isPart)
              (fun target isUse => uses target (by
                rw [Sketch.uses_make]
                exact List.mem_flatMap.2 ⟨part, isPart, isUse⟩)) keeps
            have rest := ihOthers (fun _ later => inside (List.mem_cons_of_mem _ later)) _
              (.refl first.sound first.inProgress)
            rw [Sketch.lowerAll_cons]
            refine { first.toKeeps.trans rest.toKeeps with inUse := ?_, sketched := ?_ }
            · exact List.forall_mem_cons.2
                ⟨Nat.lt_of_lt_of_le first.inUse rest.grows.size_le, rest.inUse⟩
            · intro holds
              rw [List.map_cons, List.map_cons, rest.sketched holds,
                rest.grows.sketchBy_eq _ _ first.inUse, first.sketched holds]
      have lowered := all parts (List.Subset.refl parts) table keeps
      rw [← Sketch.length_lowerAll] at takes
      have made := Pool.makes_build linkage.key keys takes lowered.inUse
      rw [Sketch.lower_make]
      refine { lowered.toKeeps.make made.grows with inUse := made.inUse, sketched := ?_ }
      intro holds
      rw [Sketch.value_make, ← lowered.sketched holds]
      exact made.sketch_eq

theorem known?_learn {type remembered : TypeIndex}
    (known : (table.learn number type).known? other = some remembered) :
    number = other ∧ type = remembered ∨ table.known? other = some remembered := by
  by_cases same : number = other
  · subst same
    simp only [TypeTable.known?, TypeTable.learn, Array.getElem?_setIfInBounds_self] at known
    split at known
    · exact .inl ⟨rfl, Option.some.inj known⟩
    · cases known
  · exact .inr (known?_learn_of_ne same type ▸ known)

/-- What is given for a declaration may be remembered, if the declaration is not in progress. -/
theorem GivesOne.learn {made : TypeIndex × TypeTable}
    (gives : linkage.GivesOne path table made (linkage.Untangled number)
      (linkage.meaning [] number)) (fresh : number ∉ path) :
    linkage.GivesOne path table (made.1, made.2.learn number made.1) (linkage.Untangled number)
      (linkage.meaning [] number) where
  grows := gives.grows
  inUse := gives.inUse
  sketched := gives.sketched
  sound :=
    { inUse := fun other type known => by
        obtain ⟨rfl, rfl⟩ | before := known?_learn known
        · exact gives.inUse
        · exact gives.sound.inUse other type before
      means := fun other type known untangled => by
        obtain ⟨rfl, rfl⟩ | before := known?_learn known
        · exact gives.sketched untangled
        · exact gives.sound.means other type before untangled }
  inProgress := fun visited inside => by
    have differs : number ≠ visited := fun same => fresh (same ▸ inside)
    rw [known?_learn_of_ne differs]
    exact gives.inProgress visited inside

/-- A class or an interface gets the type of its instances. -/
theorem givesOne_named (keeps : linkage.Keeps path table table)
    (declared : linkage.declarations[number]? = some declaration)
    (none : linkage.contents? declaration = none) :
    linkage.GivesOne path table (table.make (·.named number declaration.name))
      condition (linkage.meaning [] number) := by
  have isEntry : (table.pool.named number declaration.name).2.entry
      (table.pool.named number declaration.name).1 = .named number declaration.name :=
    Pool.entry_intern fun part isPart => absurd isPart List.not_mem_nil
  have notReserved : (table.pool.named number declaration.name).2.entry
      (table.pool.named number declaration.name).1 ≠ .reserved := by
    rw [isEntry]
    exact PoolEntry.noConfusion
  refine { keeps.make (table.pool.grows_intern _) with
    inUse := Pool.lt_size notReserved, sketched := fun _ => ?_ }
  rw [meaning_of_instances declared none]
  refine (Pool.sketchBy_of_leaf linkage.key (Pool.primitive?_eq_none notReserved)
    (congrArg PoolEntry.recipe? isEntry)).trans ?_
  exact congrArg (fun entry : PoolEntry => Sketch.use (entry.leaf _ _)) isEntry

/-- **A declaration that is lowered gets its meaning**, if with it in progress every use in its
contents gets what the use stands for. -/
theorem givesOne_of_contents (keys : Function.Injective linkage.key)
    (keeps : linkage.Keeps path table table) (unknown : table.known? number = none)
    (declared : linkage.declarations[number]? = some declaration)
    (found : linkage.contents? declaration = some contents) (fresh : number ∉ path)
    (onPath : ∀ visited ∈ path, linkage.Reaches visited number)
    (uses : ∀ target ∈ contents.uses, ∀ table, linkage.Keeps (number :: path) table table →
      linkage.GivesOne (number :: path) table (linkage.lowerDeclaration (number :: path) table target)
        (linkage.Untangled target)
        (if target ∈ number :: path then .known .error else linkage.meaning [] target)) :
    linkage.GivesOne path table (linkage.lowerDeclaration path table number)
      (linkage.Untangled number) (linkage.meaning [] number) := by
  have has := (contentsAt?_of_declared declared).trans found
  have within : linkage.Keeps (number :: path) table table :=
    .refl keeps.sound (List.forall_mem_cons.2 ⟨unknown, keeps.inProgress⟩)
  have lowered := givesOne_sketch keys (fits_contents? found)
    (fun target isUse table keeps => (uses target isUse table keeps).mono
      fun untangled => Untangled.of_reaches untangled (reaches_of_mem_uses has isUse)) within
  rw [lowerDeclaration_of_contents unknown has fresh]
  refine GivesOne.learn { lowered with
    inProgress := fun visited isVisited =>
      lowered.inProgress visited (List.mem_cons_of_mem _ isVisited)
    sketched := fun untangled => ?_ } fresh
  rw [lowered.sketched untangled, untangled.meaning_eq keys has]
  refine Sketch.value_congr_left fun target isUse => ?_
  have step := reaches_of_mem_uses has isUse
  by_cases same : target = number
  · rw [if_pos same, if_pos (same ▸ List.mem_cons_self)]
  · rw [if_neg same]
    split
    · next inside =>
        -- a use that is in progress is in a circle with the declaration, so it is an error anyway
        have back := onPath target (List.mem_of_ne_of_mem same inside)
        exact ((untangled.of_reaches step).meaning_of_circles ⟨number, same, back, step⟩ []).symm
    · rfl

/-- **An untangled declaration gets its meaning**, whatever is known, and an error while it is in
progress. -/
theorem givesOne_lowerDeclaration (keys : Function.Injective linkage.key)
    (keeps : linkage.Keeps path table table)
    (onPath : ∀ visited ∈ path, (linkage.contentsAt? visited).isSome ∧
      linkage.Reaches visited number) :
    linkage.GivesOne path table (linkage.lowerDeclaration path table number)
      (linkage.Untangled number)
      (if number ∈ path then .known .error else linkage.meaning [] number) := by
  induction left : unvisited linkage.numbers path using Nat.strongRecOn
    generalizing path table number with
  | _ left ih =>
      subst left
      have error := table.pool.makes_ofPrimitive linkage.key .error
      cases known : table.known? number with
      | some type =>
          rw [lowerDeclaration_of_known known,
            if_neg fun inside => nomatch (keeps.inProgress number inside).symm.trans known]
          exact { keeps with
            inUse := keeps.sound.inUse number type known
            sketched := keeps.sound.means number type known }
      | none =>
          have outside (lacks : linkage.contentsAt? number = none) : number ∉ path := fun inside => by
            have isSome := (onPath number inside).1
            rw [lacks] at isSome
            cases isSome
          cases declared : linkage.declarations[number]? with
          | none =>
              have lacks : linkage.contentsAt? number = none := by
                rw [contentsAt?, declared]
                rfl
              rw [lowerDeclaration_eq, known, declared, if_neg (outside lacks),
                meaning_of_undeclared declared]
              exact { keeps with inUse := error.inUse, sketched := fun _ => error.sketch_eq }
          | some declaration =>
              have contentsAt := contentsAt?_of_declared declared
              cases found : linkage.contents? declaration with
              | none =>
                  have fresh := outside (contentsAt.trans found)
                  rw [lowerDeclaration_eq, known, declared]
                  dsimp only
                  rw [found, if_neg fresh]
                  exact (givesOne_named keeps declared found).learn fresh
              | some contents =>
                  have has := contentsAt.trans found
                  by_cases inside : number ∈ path
                  · rw [lowerDeclaration_of_mem known has inside, if_pos inside]
                    exact { keeps with inUse := error.inUse, sketched := fun _ => error.sketch_eq }
                  · rw [if_neg inside]
                    have less : unvisited linkage.numbers (number :: path) < _ := unvisited_cons_lt
                      (List.mem_range.2 (Array.getElem?_eq_some_iff.1 declared).1) inside
                    refine givesOne_of_contents keys keeps known declared found inside
                      (fun visited before => (onPath visited before).2)
                      fun target isUse table keeps => ih _ less keeps (fun visited before => ?_) rfl
                    have step := reaches_of_mem_uses has isUse
                    obtain rfl | before := List.mem_cons.1 before
                    · exact ⟨by rw [has]; rfl, step⟩
                    · exact ⟨(onPath visited before).1, (onPath visited before).2.trans step⟩

theorem sound_empty : linkage.Sound (.empty linkage) := by
  have none : ∀ number type, (TypeTable.empty linkage).known? number ≠ some type := by
    intro number type known
    simp only [TypeTable.known?, TypeTable.empty, Array.getElem?_replicate] at known
    split at known <;> cases known
  exact ⟨fun number type known => absurd known (none number type),
    fun number type known => absurd known (none number type)⟩

/-- What is known when the first declarations have been lowered. -/
theorem sketchBy_foldl_lowerDeclaration (keys : Function.Injective linkage.key) (count : Nat) :
    let lowered := (List.range count).foldl
      (fun (types, table) number =>
        let (type, table) := linkage.lowerDeclaration [] table number
        (types.push type, table))
      ((#[], .empty linkage) : Array TypeIndex × TypeTable)
    lowered.1.size = count ∧ linkage.Sound lowered.2 ∧
      ∀ number < count, let type := (lowered.1[number]?).getD .error
        type.number < lowered.2.pool.size ∧ (linkage.Untangled number →
          lowered.2.pool.sketchBy linkage.key type = linkage.meaning [] number) := by
  induction count with
  | zero => exact ⟨rfl, sound_empty, nofun⟩
  | succ count ih =>
      rw [List.range_succ, List.foldl_append]
      generalize (List.range count).foldl _ _ = before at ih ⊢
      obtain ⟨size, sound, right⟩ := ih
      have keeps : linkage.Keeps [] before.2 before.2 := .refl sound nofun
      have gives : linkage.GivesOne [] before.2 (linkage.lowerDeclaration [] before.2 count)
          (linkage.Untangled count) (linkage.meaning [] count) :=
        givesOne_lowerDeclaration keys keeps nofun
      refine ⟨by simp [size], gives.sound, fun number inside => ?_⟩
      simp only [List.foldl_cons, List.foldl_nil]
      rcases Nat.lt_succ_iff_lt_or_eq.1 inside with earlier | rfl
      · rw [Array.getElem?_push, if_neg (Nat.ne_of_lt (size ▸ earlier))]
        obtain ⟨inUse, sketched⟩ := right number earlier
        refine ⟨Nat.lt_of_lt_of_le inUse gives.grows.size_le, fun untangled => ?_⟩
        exact (gives.grows.sketchBy_eq _ _ inUse).trans (sketched untangled)
      · subst size
        rw [Array.getElem?_push_size, Option.getD_some]
        exact ⟨gives.inUse, gives.sketched⟩

/-- Every declaration gets a type, and an untangled one a type of its meaning. -/
theorem sketchBy_declarationTypes (keys : Function.Injective linkage.key)
    (inside : number < linkage.declarations.size) (untangled : linkage.Untangled number) :
    let lowered := linkage.declarationTypes (.empty linkage)
    let type := (lowered.1[number]?).getD .error
    type.number < lowered.2.pool.size ∧
      lowered.2.pool.sketchBy linkage.key type = linkage.meaning [] number :=
  (linkage.sketchBy_foldl_lowerDeclaration keys linkage.declarations.size).2.2 number inside |>.imp_right
    fun sketched => sketched untangled

end Linkage

namespace Program

/-- **The type of an untangled declaration is what the declaration means**, and so its text is told
by the declarations that it reaches. -/
theorem format_declarationType {sources : List SourceFile} {number : Nat}
    (keys : Function.Injective (ofFiles sources).linkage.key)
    (inside : number < (ofFiles sources).linkage.declarations.size)
    (untangled : (ofFiles sources).linkage.Untangled number) :
    (ofFiles sources).format ((ofFiles sources).declarationType number) =
      ((ofFiles sources).linkage.meaning [] number).written.text := by
  rw [format, Pool.format_eq (ofFiles sources).linkage.key, declarationType, table_ofFiles,
    declarationTypes_ofFiles]
  obtain ⟨inUse, sketched⟩ := Linkage.sketchBy_declarationTypes keys inside untangled
  exact congrArg (fun sketch : Sketch _ => sketch.written.text)
    ((((ofFiles sources).linkage.grows_shapes _).pool.sketchBy_eq _ _ inUse).trans sketched)

end Program

end InjectionCheck
