import DoubleDispatch.Proofs.Storage.Ancestors

/-! What a script gets to see. A view answers every request that only looks, in any way that is
consistent with files having names; consulting it gives the questions of the script, in order, and
its result. A storage is such a view of itself, and being consulted leaves it as it is. -/
namespace DoubleDispatch.Storage

structure View where
  workingDirectory : Except Fault Pathname
  home : Option Pathname
  isFile : Pathname → Bool
  isDirectory : Pathname → Bool
  readText : Pathname → Except Fault String
  named : ∀ path text, readText path = .ok text → path.parent? ≠ none

def World.view (world : World) : View where
  workingDirectory := world.workingDirectory
  home := world.home
  isFile := world.isFile
  isDirectory := world.isDirectory
  readText := world.readText
  named := fun _ _ => World.readNamed

inductive Question where
  | workingDirectory
  | homeDirectory
  | isFile (path : Pathname)
  | isDirectory (path : Pathname)
  | readText (path : Pathname)
  deriving DecidableEq, Repr

variable {α γ ε δ : Type} {view : View}

/- A request that would change something gets no answer. -/
def View.reply {β : Type} (view : View) : Request β → Option (Question × β)
  | .workingDirectory => some (.workingDirectory, view.workingDirectory)
  | .homeDirectory => some (.homeDirectory, view.home)
  | .isFile path => some (.isFile path, view.isFile path)
  | .isDirectory path => some (.isDirectory path, view.isDirectory path)
  | .readText path => some (.readText path, view.readText path)
  | .makeDirectory _ | .createFile _ | .writeText _ _ | .moveFile _ _ | .removeFile _ => none

def Script.consult (view : View) : Script α → Option (List Question × α)
  | .done result => some ([], result)
  | .ask request next =>
    match view.reply request with
    | some (question, answer) =>
      ((next answer).consult view).map fun rest => (question :: rest.1, rest.2)
    | none => none

/- The script puts these questions to the view and comes out with this result. -/
def Consults (view : View) (s : Script α) (asked : List Question) (result : α) : Prop :=
  s.consult view = some (asked, result)

theorem Consults.unique {s : Script α} {asked others : List Question} {result other : α}
    (first : Consults view s asked result) (second : Consults view s others other) :
    others = asked ∧ other = result := by
  have same := second.symm.trans first
  rwa [Option.some.injEq, Prod.mk.injEq] at same

theorem consultsDone (result : α) : Consults view (.done result) [] result := rfl

theorem consultsAsk {β : Type} {request : Request β} {question : Question} {answer : β}
    (reply : view.reply request = some (question, answer)) :
    Consults view request.script [question] answer := by
  rw [Consults, Request.script, Script.consult, reply]
  rfl

theorem Consults.bind {s : Script α} {f : α → Script γ} {asked more : List Question} {first : α}
    {last : γ} (begun : Consults view s asked first) (rest : Consults view (f first) more last) :
    Consults view (s.bind f) (asked ++ more) last := by
  induction s generalizing asked with
  | done result =>
    cases begun
    exact rest
  | ask request next ih =>
    rw [Consults, Script.consult] at begun
    rw [Consults, Script.bind, Script.consult]
    cases reply : view.reply request with
    | none => simp [reply] at begun
    | some found =>
      rw [reply] at begun
      obtain ⟨⟨later, result⟩, went, same⟩ := Option.map_eq_some_iff.mp begun
      cases same
      have step : ((next found.2).bind f).consult view = some (later ++ more, last) :=
        ih found.2 went
      simp only [step, Option.map_some, List.cons_append]

theorem Consults.last {s : Script α} {f : α → Script γ} {asked : List Question} {first : α} {last : γ}
    (begun : Consults view s asked first) (ends : f first = .done last) :
    Consults view (s.bind f) asked last := by
  have rest : Consults view (f first) [] last := by rw [ends]; exact consultsDone last
  have whole := begun.bind rest
  rwa [List.append_nil] at whole

/- Attempts: the first error ends them, and a value is handed on. -/
section
variable {x : Attempt ε α} {f : α → Attempt ε γ} {asked more : List Question}

theorem consultsOk {a : α} {result : Except ε γ} (begun : Consults view x.run asked (.ok a))
    (rest : Consults view (f a).run more result) :
    Consults view (x >>= f).run (asked ++ more) result :=
  begun.bind rest

/- What comes last asks nothing. -/
theorem consultsEnd {a : α} {result : Except ε γ} (begun : Consults view x.run asked (.ok a))
    (rest : Consults view (f a).run [] result) : Consults view (x >>= f).run asked result := by
  have whole := consultsOk begun rest
  rwa [List.append_nil] at whole

theorem consultsError {e : ε} (begun : Consults view x.run asked (.error e)) :
    Consults view (x >>= f).run asked (.error e) :=
  begun.last rfl

theorem consultsLift {s : Script α} {result : α} (ran : Consults view s asked result) :
    Consults view (ExceptT.lift s : Attempt ε α).run asked (.ok result) :=
  ran.last rfl

theorem consultsAdapt {wrap : ε → δ} {result : Except ε α} (ran : Consults view x.run asked result) :
    Consults view (x.adapt wrap).run asked (result.mapError wrap) :=
  ran.last rfl

theorem consultsAttempt {request : Request (Except Fault α)} {question : Question}
    {answer : Except Fault α} {wrap : Fault → ε}
    (reply : view.reply request = some (question, answer)) :
    Consults view (request.attempt wrap).run [question] (answer.mapError wrap) :=
  (consultsAsk reply).last rfl

end

theorem World.replyPerform {β : Type} {world : World} {request : Request β} {question : Question}
    {answer : β} (reply : world.view.reply request = some (question, answer)) :
    world.perform request = (answer, world) := by
  cases request with
  | workingDirectory | homeDirectory | isFile | isDirectory | readText =>
    cases reply
    rfl
  | makeDirectory | createFile | writeText | moveFile | removeFile => cases reply

theorem Consults.run {s : Script α} {world : World} {asked : List Question} {result : α}
    (ran : Consults world.view s asked result) : s.run world = (result, world) := by
  induction s generalizing asked with
  | done first =>
    cases ran
    rfl
  | ask request next ih =>
    rw [Consults, Script.consult] at ran
    cases reply : world.view.reply request with
    | none => simp [reply] at ran
    | some found =>
      rw [reply] at ran
      obtain ⟨⟨later, _⟩, went, same⟩ := Option.map_eq_some_iff.mp ran
      cases same
      rw [Script.run, World.replyPerform reply]
      exact ih found.2 went

end DoubleDispatch.Storage
