import DoubleDispatch.Emit.Generator
import DoubleDispatch.Proofs.Catalog.Operations
import DoubleDispatch.Proofs.Emit.Runners
import DoubleDispatch.Proofs.Emit.Dispatch
import DoubleDispatch.Proofs.Emit.Holders
import DoubleDispatch.Proofs.Emit.Enumeration

/-! Once the catalogues are accepted, no artifact can fail: each is written from fragments, and all
of these have exactly the placeholders of their kind. -/
namespace DoubleDispatch.Emit
open Catalog (Operations Terminals smallCatalog)
open Template (Fragment)

namespace Generator

theorem madeOf {ops : Operations} {terminals : Terminals} {names : Names} {g : Generator}
    (made : Generator.make ops terminals names = .ok g) :
    g.operations = ops ∧ g.terminals = terminals ∧ g.names = names := by
  unfold Generator.make at made
  split at made
  · contradiction
  · cases Except.ok.inj made
    exact ⟨rfl, rfl, rfl⟩

theorem makeAccepted {ops : Operations} {terminals : Terminals} (names : Names)
    (accepted : checkTerminals ops terminals = .ok ()) :
    Generator.make ops terminals names = .ok ⟨ops, terminals, names, accepted⟩ := by
  unfold Generator.make
  split
  · rename_i error refused
    exact absurd (refused.symm.trans accepted) (by simp)
  · rfl

/- The fragments of an artifact; the manifest is the one that no template is used for. -/
def fragments (g : Generator) : Artifact → List Fragment
  | .runnersHeader => runnersHeaderFragments g.operations g.names
  | .runnersSource => runnersSourceFragments g.operations g.names
  | .dispatchHeader => dispatchHeaderFragments g.operations g.terminals g.names
  | .dispatchSource => dispatchSourceFragments g.operations g.terminals g.names
  | .expressionHeader => expressionHeaderFragments g.operations g.names
  | .expressionSource => expressionSourceFragments g.operations g.names
  | .numericHeader => numericHeaderFragments g.operations g.names
  | .numericSource => numericSourceFragments g.operations g.names
  | .enumHeader => g.enumeration.headerFragments g.names
  | .enumJava => g.enumeration.javaFragments g.names
  | .enumJson => []
  | .constructionSource => constructionFragments g.operations g.terminals g.names

def text (g : Generator) : Artifact → String
  | .runnersHeader => (runnersHeaderPage g.operations g.names).text
  | .runnersSource => (runnersSourcePage g.operations g.names).text
  | .dispatchHeader => (dispatchHeaderPage g.operations g.terminals g.names).text
  | .dispatchSource => (dispatchSourcePage g.operations g.terminals g.names).text
  | .expressionHeader => (expressionHeaderPage g.operations g.names).text
  | .expressionSource => (expressionSourcePage g.operations g.names).text
  | .numericHeader => (numericHeaderPage g.operations g.names).text
  | .numericSource => (numericSourcePage g.operations g.names).text
  | .enumHeader => (g.enumeration.headerPage g.names).text
  | .enumJava => (g.enumeration.javaPage g.names).text
  | .enumJson => g.enumeration.json
  | .constructionSource => (constructionPage g.operations g.terminals g.names).text

theorem artifactWrites (g : Generator) (a : Artifact) :
    Writes (g.artifact a) (g.fragments a) (g.text a) := by
  cases a with
  | runnersHeader => exact runnersHeaderWrites g.operations g.names
  | runnersSource => exact runnersSourceWrites g.operations g.names
  | dispatchHeader => exact dispatchHeaderWrites g.operations g.terminals g.names
  | dispatchSource => exact dispatchSourceWrites g.operations g.terminals g.names
  | expressionHeader => exact expressionHeaderWrites g.operations g.names
  | expressionSource => exact expressionSourceWrites g.operations g.names
  | numericHeader => exact numericHeaderWrites g.operations g.names
  | numericSource => exact numericSourceWrites g.operations g.names
  | enumHeader => exact g.enumeration.headerWrites g.names
  | enumJava => exact g.enumeration.javaWrites g.names
  | enumJson => exact .pure g.enumeration.json
  | constructionSource => exact constructionWrites g.operations g.terminals g.names

theorem fragmentsComplete (g : Generator) (a : Artifact) :
    ∀ f ∈ g.fragments a, f.Complete := by
  cases a with
  | runnersHeader => exact runnersHeaderComplete g.operations g.names
  | runnersSource => exact runnersSourceComplete g.operations g.names
  | dispatchHeader => exact dispatchHeaderComplete g.operations g.terminals g.names
  | dispatchSource => exact dispatchSourceComplete g.operations g.terminals g.names
  | expressionHeader => exact expressionHeaderComplete g.operations g.names
  | expressionSource => exact expressionSourceComplete g.operations g.names
  | numericHeader => exact numericHeaderComplete g.operations g.names
  | numericSource => exact numericSourceComplete g.operations g.names
  | enumHeader => exact g.enumeration.headerComplete g.names
  | enumJava => exact g.enumeration.javaComplete g.names
  | enumJson => exact List.forall_mem_nil _
  | constructionSource => exact constructionComplete g.operations g.terminals g.names

theorem artifactText (g : Generator) (a : Artifact) : g.artifact a = .ok (g.text a) :=
  (g.artifactWrites a).done (g.fragmentsComplete a)

/- What an artifact is read as. -/
def Reads {α : Type} (g : Generator) (artifact : Artifact) (read : String → Option α) (x : α) :
    Prop :=
  ∃ text, g.artifact artifact = .ok text ∧ read text = some x

theorem readsOf (g : Generator) (a : Artifact) {α : Type} {read : String → Option α} {x : α}
    (found : read (g.text a) = some x) : g.Reads a read x :=
  ⟨_, g.artifactText a, found⟩

/- What decides whether an artifact comes out is said first: its fragments, each with exactly the
placeholders of its kind, and bodies where the category has some. Then that it does come out. -/
theorem acceptedWritesEveryArtifact {ops : Operations} {terminals : Terminals} {names : Names}
    {g : Generator} (made : Generator.make ops terminals names = .ok g) :
    (g.operations = ops ∧ g.terminals = terminals ∧ g.names = names) ∧
    (∀ a, ∀ text, g.artifact a = .ok text ↔
      (∀ f ∈ g.fragments a, f.Complete) ∧ text = g.text a) ∧
    (∀ a, ∀ f ∈ g.fragments a, ∀ p, p ∈ f.names ↔ p ∈ f.kind.placeholders) ∧
    (∀ op ∈ ops.entries, (∃ functions, bodies op = .ok functions) ↔ op ∈ bodied ops) ∧
    ∀ a, ∃ text, g.artifact a = .ok text := by
  refine ⟨madeOf made, g.artifactWrites, fun a f member p => ?_, fun op member => ?_,
    fun a => ⟨g.text a, g.artifactText a⟩⟩
  · obtain ⟨present, known⟩ := g.fragmentsComplete a f member
    exact ⟨known p, present p⟩
  · rw [bodiesIff, bodied, List.mem_filter]
    exact ⟨fun has => ⟨member, has⟩, And.right⟩

end Generator

def smallGenerator : Generator := ⟨smallCatalog, .reference, .standard, by decide⟩

theorem smallGeneratorMade :
    Generator.make smallCatalog .reference .standard = .ok smallGenerator :=
  Generator.makeAccepted .standard smallGenerator.accepted

theorem smallGeneratorWritesRunners :
    Generator.make smallCatalog .reference .standard = .ok smallGenerator ∧
      ∃ text, smallGenerator.artifact .runnersSource = .ok text :=
  ⟨smallGeneratorMade,
    (Generator.acceptedWritesEveryArtifact smallGeneratorMade).2.2.2.2 .runnersSource⟩

end DoubleDispatch.Emit
