import InjectionCheck.Program.Scope

/-!
# What files offer under a name

What a file exports under a name is told by rules that follow the name through the files, from one
file to another at a time (`Exports.Offers`). Files may export from each other in circles, and with
`export *` a name may be offered in several ways, so the rules say nothing about the order in which
they are tried.

**The search for an export** enters no file twice for one name, and what it has left behind in one
branch stays closed in all others. It still finds a declaration exactly if one is offered
(`find?_sound_and_complete`): whatever an entered file leads to is entered too, or still waits, or
is offered nothing (`Exports.Closed`), so that a search that runs out of places has seen every one
that matters.
-/

set_option autoImplicit false

namespace InjectionCheck

namespace Exports

/-- What a file offers under a name. -/
inductive Offers (exports : Exports) : Nat → String → Nat → Prop where
  /-- The name is exported as one of the file's own, which the file declares. -/
  | declared {number declaration : Nat} {name own : String} {file : FileNames} :
      exports.files[number]? = some file →
      file.exported.lookup name = some (.own own) →
      file.declared.lookup own = some declaration → Offers exports number name declaration
  /-- The name is exported as one of the file's own, which the file does not declare. The last
  one of its imports takes it from another file. -/
  | imported {number declaration target : Nat} {name own : String} {file : FileNames}
      {origin : ImportOrigin} :
      exports.files[number]? = some file →
      file.exported.lookup name = some (.own own) →
      file.declared.lookup own = none → file.imported.lookup own = some origin →
      exports.destination file.path origin.source = .file target →
      Offers exports target origin.name declaration → Offers exports number name declaration
  /-- The name is exported from another file. -/
  | reexported {number declaration target : Nat} {name : String} {file : FileNames}
      {origin : ImportOrigin} :
      exports.files[number]? = some file →
      file.exported.lookup name = some (.other origin) →
      exports.destination file.path origin.source = .file target →
      Offers exports target origin.name declaration → Offers exports number name declaration
  /-- The name is not exported by itself, but among all names of another file. -/
  | star {number declaration target : Nat} {name source : String} {file : FileNames} :
      exports.files[number]? = some file →
      file.exported.lookup name = none → name ≠ "default" → source ∈ file.stars →
      exports.destination file.path source = .file target →
      Offers exports target name declaration → Offers exports number name declaration

/-- A declaration is reached from a place step by step. -/
inductive Reaches (exports : Exports) (declaration : Nat) : Nat × String → Prop where
  | found {place : Nat × String} {file : FileNames} : exports.files[place.1]? = some file →
      exports.step file place.2 = .found declaration → Reaches exports declaration place
  | onward {place next : Nat × String} {file : FileNames} {places : List (Nat × String)} :
      exports.files[place.1]? = some file → exports.step file place.2 = .onward places →
      next ∈ places → Reaches exports declaration next → Reaches exports declaration place

variable {exports : Exports}

/-! ## Offers and steps -/

theorem place?_eq_some_iff {importer : String} {origin : ImportOrigin} {place : Nat × String} :
    exports.place? importer origin = some place ↔
      ∃ target, exports.destination importer origin.source = .file target ∧
        (target, origin.name) = place := by
  unfold place?
  cases exports.destination importer origin.source with
  | file target => simp
  | package => simp
  | missing => simp

theorem offers_of_found {number declaration : Nat} {name : String} {file : FileNames}
    (isFile : exports.files[number]? = some file)
    (found : exports.step file name = .found declaration) :
    exports.Offers number name declaration := by
  unfold step at found
  split at found
  · next own exported =>
    unfold ownStep at found
    split at found
    · next declared =>
      cases found
      exact .declared isFile exported declared
    · cases found
  · cases found
  · split at found <;> cases found

theorem offers_of_onward {number declaration : Nat} {name : String} {file : FileNames}
    {places : List (Nat × String)} {next : Nat × String}
    (isFile : exports.files[number]? = some file)
    (onward : exports.step file name = .onward places) (isNext : next ∈ places)
    (offers : exports.Offers next.1 next.2 declaration) :
    exports.Offers number name declaration := by
  unfold step at onward
  split at onward
  · next own exported =>
    unfold ownStep at onward
    split at onward
    · cases onward
    · next notDeclared =>
      cases onward
      obtain ⟨origin, imported, place⟩ := Option.bind_eq_some_iff.1 (Option.mem_toList.1 isNext)
      obtain ⟨target, leads, rfl⟩ := place?_eq_some_iff.1 place
      exact .imported isFile exported notDeclared imported leads offers
  · next origin exported =>
    cases onward
    obtain ⟨target, leads, rfl⟩ := place?_eq_some_iff.1 (Option.mem_toList.1 isNext)
    exact .reexported isFile exported leads offers
  · next notExported =>
    split at onward
    · cases onward
      cases isNext
    · next notDefault =>
      cases onward
      obtain ⟨source, isStar, place⟩ := List.mem_filterMap.1 isNext
      obtain ⟨target, leads, rfl⟩ := place?_eq_some_iff.1 place
      exact .star isFile notExported notDefault isStar leads offers

theorem Reaches.offers {declaration : Nat} {place : Nat × String}
    (reaches : exports.Reaches declaration place) :
    exports.Offers place.1 place.2 declaration := by
  induction reaches with
  | found isFile found => exact offers_of_found isFile found
  | onward isFile onward isNext _ ih => exact offers_of_onward isFile onward isNext ih

theorem Offers.reaches {number declaration : Nat} {name : String}
    (offers : exports.Offers number name declaration) :
    exports.Reaches declaration (number, name) := by
  induction offers with
  | declared isFile exported declared =>
    apply Reaches.found isFile
    simp [step, exported, ownStep, declared]
  | imported isFile exported notDeclared imported leads _ ih =>
    have place := place?_eq_some_iff.2 ⟨_, leads, rfl⟩
    refine .onward isFile ?_ (List.mem_singleton_self _) ih
    simp [step, exported, ownStep, notDeclared, imported, place]
  | reexported isFile exported leads _ ih =>
    have place := place?_eq_some_iff.2 ⟨_, leads, rfl⟩
    refine .onward isFile ?_ (List.mem_singleton_self _) ih
    simp [step, exported, place]
  | @star number declaration target name source file isFile notExported notDefault isStar leads
      offers ih =>
    have place : exports.place? file.path ⟨source, name⟩ = some (target, name) :=
      place?_eq_some_iff.2 ⟨target, leads, rfl⟩
    have onward : exports.step file name =
        .onward (file.stars.filterMap fun source => exports.place? file.path ⟨source, name⟩) := by
      simp [step, notExported, notDefault]
    exact .onward isFile onward (List.mem_filterMap.2 ⟨source, isStar, place⟩) ih

/-! ## The search -/

/-- A declaration that is found is reached from one of the places where the search begins. -/
theorem reaches_of_search {visited pending : List (Nat × String)} {declaration : Nat}
    (found : exports.search visited pending = some declaration) :
    ∃ place ∈ pending, exports.Reaches declaration place := by
  fun_induction exports.search visited pending with
  | case1 visited => cases found
  | case2 visited number name others inside fresh here isFound =>
    cases found
    have isFile := Array.getElem?_eq_getElem inside
    exact ⟨(number, name), List.mem_cons_self, .found isFile isFound⟩
  | case3 visited number name others inside fresh places onward ih =>
    have isFile := Array.getElem?_eq_getElem inside
    obtain ⟨place, isPlace, reaches⟩ := ih found
    rcases List.mem_append.1 isPlace with isNext | isOther
    · exact ⟨(number, name), List.mem_cons_self, .onward isFile onward isNext reaches⟩
    · exact ⟨place, List.mem_cons_of_mem _ isOther, reaches⟩
  | case4 visited number name others inside seen ih =>
    obtain ⟨place, isPlace, reaches⟩ := ih found
    exact ⟨place, List.mem_cons_of_mem _ isPlace, reaches⟩
  | case5 visited number name others outside ih =>
    obtain ⟨place, isPlace, reaches⟩ := ih found
    exact ⟨place, List.mem_cons_of_mem _ isPlace, reaches⟩

/-- A place from which no declaration is reached. -/
def Barren (exports : Exports) (place : Nat × String) : Prop :=
  ∀ declaration, ¬exports.Reaches declaration place

theorem barren_of_outside {number : Nat} {name : String}
    (outside : ¬number < exports.files.size) : exports.Barren (number, name) := by
  intro declaration reaches
  apply outside
  cases reaches with
  | found isFile _ => exact (Array.getElem?_eq_some_iff.1 isFile).1
  | onward isFile _ _ _ => exact (Array.getElem?_eq_some_iff.1 isFile).1

theorem barren_of_nowhere {place : Nat × String}
    (nowhere : (exports.files[place.1]?.map fun file => exports.step file place.2) =
      some (.onward [])) : exports.Barren place := by
  intro declaration reaches
  cases reaches with
  | found isFile found =>
    rw [isFile, Option.map_some, found] at nowhere
    cases nowhere
  | onward isFile onward isNext _ =>
    rw [isFile, Option.map_some, onward] at nowhere
    cases nowhere
    cases isNext

/-- What the visited places lead to is visited, or waits, or reaches nothing. -/
def Closed (exports : Exports) (visited pending : List (Nat × String)) : Prop :=
  ∀ place ∈ visited, ∃ file places, exports.files[place.1]? = some file ∧
    exports.step file place.2 = .onward places ∧
    ∀ next ∈ places, next ∈ visited ∨ next ∈ pending ∨ exports.Barren next

/-- When nothing waits any more, nothing is reached from the visited places: by induction on the
way to a declaration, since the places may lead to each other in circles. -/
theorem Closed.barren {visited : List (Nat × String)} (closed : exports.Closed visited []) :
    ∀ place ∈ visited, exports.Barren place := by
  intro place isVisited declaration reaches
  induction reaches with
  | found isFile found =>
    obtain ⟨file, places, isFile', onward, -⟩ := closed _ isVisited
    cases isFile.symm.trans isFile'
    cases found.symm.trans onward
  | onward isFile onward isNext reaches ih =>
    obtain ⟨file, places, isFile', onward', next⟩ := closed _ isVisited
    cases isFile.symm.trans isFile'
    cases onward.symm.trans onward'
    rcases next _ isNext with isVisited | waits | barren
    · exact ih isVisited
    · cases waits
    · exact barren declaration reaches

/-- A place that waits no longer is dropped if it is visited or reaches nothing. -/
theorem Closed.drop {visited others : List (Nat × String)} {place : Nat × String}
    (closed : exports.Closed visited (place :: others))
    (done : place ∈ visited ∨ exports.Barren place) : exports.Closed visited others := by
  intro before isVisited
  obtain ⟨file, places, isFile, onward, next⟩ := closed before isVisited
  refine ⟨file, places, isFile, onward, ?_⟩
  intro after isNext
  rcases next after isNext with isVisited | waits | barren
  · exact .inl isVisited
  · rcases List.mem_cons.1 waits with rfl | waits
    · exact done.imp_right .inr
    · exact .inr (.inl waits)
  · exact .inr (.inr barren)

/-- A place is entered, and what it leads to waits. -/
theorem Closed.enter {visited others places : List (Nat × String)} {place : Nat × String}
    {file : FileNames} (closed : exports.Closed visited (place :: others))
    (isFile : exports.files[place.1]? = some file)
    (onward : exports.step file place.2 = .onward places) :
    exports.Closed (place :: visited) (places ++ others) := by
  intro before isVisited
  rcases List.mem_cons.1 isVisited with rfl | isVisited
  · refine ⟨file, places, isFile, onward, ?_⟩
    intro after isNext
    exact .inr (.inl (List.mem_append_left _ isNext))
  · obtain ⟨file', places', isFile', onward', next⟩ := closed before isVisited
    refine ⟨file', places', isFile', onward', ?_⟩
    intro after isNext
    rcases next after isNext with isVisited | waits | barren
    · exact .inl (List.mem_cons_of_mem _ isVisited)
    · rcases List.mem_cons.1 waits with rfl | waits
      · exact .inl List.mem_cons_self
      · exact .inr (.inl (List.mem_append_right _ waits))
    · exact .inr (.inr barren)

/-- A search that finds nothing has seen that nothing is reached, neither from the places where it
begins nor from those that it does not enter again. -/
theorem Closed.barren_of_search {visited pending : List (Nat × String)}
    (closed : exports.Closed visited pending) (nothing : exports.search visited pending = none) :
    (∀ place ∈ visited, exports.Barren place) ∧ ∀ place ∈ pending, exports.Barren place := by
  fun_induction exports.search visited pending with
  | case1 visited => exact ⟨closed.barren, List.forall_mem_nil _⟩
  | case2 visited number name others inside fresh here isFound => cases nothing
  | case3 visited number name others inside fresh places onward ih =>
    -- the place that is entered is among the visited ones from here on
    obtain ⟨visited, waiting⟩ := ih (closed.enter (Array.getElem?_eq_getElem inside) onward) nothing
    obtain ⟨here, visited⟩ := List.forall_mem_cons.1 visited
    refine ⟨visited, List.forall_mem_cons.2 ⟨here, ?_⟩⟩
    intro place isOther
    exact waiting place (List.mem_append_right _ isOther)
  | case4 visited number name others inside seen ih =>
    have seen := Decidable.not_not.1 seen
    obtain ⟨visited, waiting⟩ := ih (closed.drop (.inl seen)) nothing
    exact ⟨visited, List.forall_mem_cons.2 ⟨visited _ seen, waiting⟩⟩
  | case5 visited number name others outside ih =>
    have barren : exports.Barren (number, name) := barren_of_outside outside
    obtain ⟨visited, waiting⟩ := ih (closed.drop (.inr barren)) nothing
    exact ⟨visited, List.forall_mem_cons.2 ⟨barren, waiting⟩⟩

theorem offers_of_find? {number declaration : Nat} {name : String}
    (found : exports.find? number name = some declaration) :
    exports.Offers number name declaration := by
  obtain ⟨place, isPlace, reaches⟩ := reaches_of_search found
  obtain rfl := List.mem_singleton.1 isPlace
  exact reaches.offers

theorem find?_eq_none_iff {number : Nat} {name : String} :
    exports.find? number name = none ↔ ∀ declaration, ¬exports.Offers number name declaration := by
  constructor
  · intro nothing declaration offers
    have closed : exports.Closed [] [(number, name)] := List.forall_mem_nil _
    exact (closed.barren_of_search nothing).2 _ (List.mem_singleton_self _) declaration
      offers.reaches
  · intro noOffer
    cases found : exports.find? number name with
    | none => rfl
    | some declaration => exact absurd (offers_of_find? found) (noOffer declaration)

/-- **A file is found to export a name as a declaration only if it offers that declaration, and
some declaration is found whenever one is offered**, however the files export from each other. -/
theorem find?_sound_and_complete (exports : Exports) (number : Nat) (name : String) :
    (∀ declaration, exports.find? number name = some declaration →
      exports.Offers number name declaration) ∧
    ((∃ declaration, exports.Offers number name declaration) →
      (exports.find? number name).isSome) := by
  refine ⟨fun declaration found => offers_of_find? found, ?_⟩
  rintro ⟨declaration, offers⟩
  rw [Option.isSome_iff_ne_none]
  intro nothing
  exact find?_eq_none_iff.1 nothing declaration offers

end Exports

end InjectionCheck
