import InjectionCheck.Proofs.BarePrograms
import InjectionCheck.Proofs.ParallelUnits
import InjectionCheck.Proofs.Places
import InjectionCheck.Proofs.RedescribedTexts

/-!
# Programs with other descriptions

What the symbols of a program are called by their descriptions is irrelevant for what is wrong
with the program. If two programs differ only in the descriptions of the symbols that their files
bind, and each description takes as many bytes as the other one, the same problems are found in
the same order at the same places (`Wiring.problems_independent_of_descriptions`): two tokens
that are called alike are still two tokens.

The tokens of the files are alike, so the files declare the same up to descriptions
(`SourceFile.Redescribed.bare_eq`), and a program has the same findings without descriptions.
That findings which are worded alike are reported once makes no difference, since no two
findings of one kind are about the same places.
-/

set_option autoImplicit false

namespace InjectionCheck

open Passed

/-- Where the descriptions of the symbols stand that a file binds. -/
def SourceFile.descriptions (source : SourceFile) : List Span :=
  (ProgramFile.ofSource source).1.unit.items.flatMap Item.descriptions

/-- Files with one path that differ at most in the descriptions of symbols. -/
structure SourceFile.Redescribed (source source' : SourceFile) : Prop where
  path : source.path = source'.path
  content : InjectionCheck.Redescribed source.descriptions 0 source.content source'.content

namespace SourceFile

/-- A description is a token of its file. -/
theorem exists_token_of_mem_descriptions {source : SourceFile} {place : Span}
    (inside : place ∈ source.descriptions) :
    ∃ token ∈ Scanner.tokensAfter 0 source.content, token.span = place := by
  have sorted := TokenList.sorted_ofText source.content
  obtain ⟨⟨token, other⟩, isPair, stands⟩ := SourceUnit.exists_of_mem_descriptions
    (Cursor.Alike.refl (c := .start _ (TokenList.ofText source.content).stop) sorted) inside
  rw [← TokenList.tokens_ofText]
  exact ⟨token, (List.of_mem_zip isPair).1, stands⟩

namespace Redescribed

variable {source source' : SourceFile} (redescribed : source.Redescribed source')

include redescribed

theorem tokensAlike :
    InjectionCheck.Redescribed.TokensAlike source.descriptions (TokenList.ofText source.content).tokens
      (TokenList.ofText source'.content).tokens := by
  rw [TokenList.tokens_ofText, TokenList.tokens_ofText]
  exact redescribed.content.alike_tokensAfter fun place inside _ =>
    exists_token_of_mem_descriptions inside

/-- The files declare the same up to descriptions. -/
theorem bare_eq :
    (ProgramFile.ofSource source).1.bare = (ProgramFile.ofSource source').1.bare := by
  have tokens := redescribed.tokensAlike
  have length : (TokenList.ofText source.content).length = (TokenList.ofText source'.content).length := by
    rw [TokenList.length_ofText, TokenList.length_ofText, redescribed.content.byteLength_eq]
  have alike : (TokenList.ofText source.content).Alike (TokenList.ofText source'.content) :=
    ⟨tokens.imp fun _ _ related => related.1, congrArg Span.point length,
      TokenList.sorted_ofText source.content⟩
  have differ : DifferAt source.descriptions ((TokenList.ofText source.content).tokens.zip
      (TokenList.ofText source'.content).tokens) :=
    fun pair inside => (List.forall₂_zip tokens inside).2
  have items := SourceUnit.bare_ofTokens alike differ
  have path := redescribed.path
  unfold ProgramFile.bare
  dsimp only [ProgramFile.ofSource]
  rw [items, path]

end Redescribed

/-- In a file object literals start at different places, and so do constructor parameters. -/
theorem apart (source : SourceFile) : (ProgramFile.ofSource source).1.unit.Apart :=
  SourceUnit.apart_ofTokens (TokenList.sorted_ofText source.content)

end SourceFile

namespace Wiring

/-- **What is wrong with a program does not depend on the descriptions of its symbols.** The
problems of two programs that differ only in these descriptions agree one by one in their kind,
their place and the places that have to do with them. -/
theorem problems_independent_of_descriptions {sources sources' : List SourceFile}
    (redescribed : List.Forall₂ SourceFile.Redescribed sources sources') :
    List.Forall₂ (fun problem problem' : Problem =>
        problem.kind = problem'.kind ∧ problem.location = problem'.location ∧
          problem.related.map RelatedPlace.location = problem'.related.map RelatedPlace.location)
      (ofProgram (.ofFiles sources)).problems (ofProgram (.ofFiles sources')).problems := by
  have files : (sources.map fun source => (ProgramFile.ofSource source).1).map ProgramFile.bare =
      (sources'.map fun source => (ProgramFile.ofSource source).1).map ProgramFile.bare := by
    induction redescribed with
    | nil => rfl
    | cons first _ ih => simp only [List.map_cons, first.bare_eq, ih]
  have bare : (ofProgram (.ofFiles sources)).bare = (ofProgram (.ofFiles sources')).bare := by
    rw [← ofProgram_bare (.ofFiles sources), ← ofProgram_bare (.ofFiles sources'),
      Program.bare_ofFiles, Program.bare_ofFiles, files]
  have located (sources : List SourceFile) : (ofProgram (.ofFiles sources)).Located :=
    located_ofFiles fun source _ => source.apart
  have outlines : (ofProgram (.ofFiles sources)).problems.map Problem.outline =
      (ofProgram (.ofFiles sources')).problems.map Problem.outline := by
    rw [outlines_problems (located sources), outlines_problems (located sources'), bare]
  rw [← List.forall₂_eq_eq_eq, List.forall₂_map_left_iff, List.forall₂_map_right_iff] at outlines
  refine outlines.imp fun problem problem' same => ?_
  exact ⟨congrArg ProblemOutline.kind same, congrArg ProblemOutline.location same,
    congrArg ProblemOutline.related same⟩

/-! ## Two symbols that are called alike -/

/-- A file in which a service requires a token that nothing provides, with a description for the
token; the description of the token that is provided is `Logger`. -/
def clockCalled (description : String) : SourceFile :=
  ⟨"app.ts", "const LOGGER = Symbol('Logger'); const CLOCK = Symbol(".toList ++
    '"' :: (description.toList ++ '"' :: ("); class Service \x7b constructor(" ++
      "@inject(CLOCK) clock: unknown) \x7b\x7d \x7d export const app = defineBuilderConfig(" ++
      "\x7b builderId: 'app', injections: [\x7b token: Service \x7d, " ++
      "\x7b token: LOGGER, provider: Service \x7d] \x7d);").toList)⟩

/-- The token that is not provided is missed at the same place when it is called like the one
that is. -/
theorem problems_independent_of_descriptions_clock :
    List.Forall₂ SourceFile.Redescribed [clockCalled "Clocks"] [clockCalled "Logger"] ∧
      List.Forall₂ (fun problem problem' : Problem =>
          problem.kind = problem'.kind ∧ problem.location = problem'.location ∧
            problem.related.map RelatedPlace.location = problem'.related.map RelatedPlace.location)
        (ofProgram (.ofFiles [clockCalled "Clocks"])).problems
        (ofProgram (.ofFiles [clockCalled "Logger"])).problems := by
  have isPlace : (⟨54, 62⟩ : Span) ∈ (clockCalled "Clocks").descriptions := by decide +kernel
  have redescribed : (clockCalled "Clocks").Redescribed (clockCalled "Logger") :=
    ⟨rfl, .prepend _ (.replace (by decide) (by decide) (by decide) (by decide) isPlace (.refl _ _ _))⟩
  have both := List.Forall₂.cons redescribed .nil
  exact ⟨both, problems_independent_of_descriptions both⟩

end Wiring

end InjectionCheck
