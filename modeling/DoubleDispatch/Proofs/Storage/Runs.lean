import DoubleDispatch.Storage.World

/-! Runs of a script on a storage that may refuse any request. A run is told by the storage after
each request; what holds whatever the answers are is asked of the script itself, request by request,
and then holds of every run of it. -/
namespace DoubleDispatch.Storage

variable {α γ ε : Type}

/- A refused request changes nothing, but a file may be left with another content when it was to be
written. What a run has made itself it can take away, so that is never refused. -/
def Refuses {β : Type} (world : World) : Request β → β → World → Prop
  | .workingDirectory, answer, after => (∃ fault, answer = .error fault) ∧ after = world
  | .homeDirectory, answer, after => answer = none ∧ after = world
  | .isFile _, answer, after => answer = false ∧ after = world
  | .isDirectory _, answer, after => answer = false ∧ after = world
  | .readText _, answer, after => (∃ fault, answer = .error fault) ∧ after = world
  | .makeDirectory _, answer, after => (∃ fault, answer = .error fault) ∧ after = world
  | .createFile _, answer, after => (∃ fault, answer = .error fault) ∧ after = world
  | .writeText path _, answer, after => (∃ fault, answer = .error fault) ∧
      (after = world ∨ ∃ position old content, world.find path = .ok (position, .file old) ∧
        after = world.put position.place (.file content))
  | .moveFile _ _, answer, after => (∃ fault, answer = .error fault) ∧ after = world
  | .removeFile _, _, _ => False

def Answers {β : Type} (world : World) (request : Request β) (answer : β) (after : World) : Prop :=
  world.perform request = (answer, after) ∨ Refuses world request answer after

namespace Script

inductive Runs : Script α → World → List World → World → α → Prop where
  | done (result : α) (world : World) : Runs (.done result) world [] world result
  | ask {β : Type} {request : Request β} {next : β → Script α} {world after final : World}
      {answer : β} {between : List World} {result : α} (answers : Answers world request answer after)
      (rest : Runs (next answer) after between final result) :
      Runs (.ask request next) world (after :: between) final result

/- Whatever the answers are, the storage is as told after each request, and in the end. -/
def Always (during : World → Prop) (ends : α → World → Prop) : Script α → World → Prop
  | .done result, world => ends result world
  | .ask request next, world => ∀ answer after, Answers world request answer after →
      during after ∧ (next answer).Always during ends after

variable {during : World → Prop} {ends : α → World → Prop} {world final : World}
  {between : List World} {result : α}

theorem Runs.always {s : Script α} (ran : s.Runs world between final result)
    (always : s.Always during ends world) : (∀ w ∈ between, during w) ∧ ends result final := by
  induction ran with
  | done result world => exact ⟨List.forall_mem_nil _, always⟩
  | ask answers rest ih =>
    obtain ⟨here, later⟩ := always _ _ answers
    obtain ⟨others, ended⟩ := ih later
    exact ⟨List.forall_mem_cons.mpr ⟨here, others⟩, ended⟩

theorem Always.mono {s : Script α} {wider : α → World → Prop} (always : s.Always during ends world)
    (wide : ∀ r w, ends r w → wider r w) : s.Always during wider world := by
  induction s generalizing world with
  | done result => exact wide _ _ always
  | ask request next ih =>
    intro answer after answers
    obtain ⟨here, later⟩ := always answer after answers
    exact ⟨here, ih answer later⟩

theorem Always.bind {s : Script α} {f : α → Script γ} {last : γ → World → Prop}
    (always : s.Always during (fun r w => (f r).Always during last w) world) :
    (s.bind f).Always during last world := by
  induction s generalizing world with
  | done result => exact always
  | ask request next ih =>
    intro answer after answers
    obtain ⟨here, later⟩ := always answer after answers
    exact ⟨here, ih answer later⟩

theorem runsBind {s : Script α} {f : α → Script γ} {result : γ}
    (ran : (s.bind f).Runs world between final result) : ∃ front middle first back,
      s.Runs world front middle first ∧ (f first).Runs middle back final result ∧
      between = front ++ back := by
  induction s generalizing world between with
  | done first => exact ⟨[], world, first, between, .done first world, ran, rfl⟩
  | ask request next ih =>
    cases ran with
    | ask answers rest =>
      obtain ⟨front, middle, first, back, ran, later, rfl⟩ := ih _ rest
      exact ⟨_, middle, first, back, .ask answers ran, later, rfl⟩

/- A storage that refuses nothing. -/
theorem runsServed (s : Script α) (world : World) :
    ∃ between, s.Runs world between (s.run world).2 (s.run world).1 := by
  induction s generalizing world with
  | done result => exact ⟨[], .done result world⟩
  | ask request next ih =>
    obtain ⟨between, ran⟩ := ih (world.perform request).1 (world.perform request).2
    exact ⟨_, .ask (Or.inl rfl) ran⟩

end Script

/- What only looks at the storage. -/
def Request.reads {β : Type} : Request β → Bool
  | .workingDirectory | .homeDirectory | .isFile _ | .isDirectory _ | .readText _ => true
  | .makeDirectory _ | .createFile _ | .writeText _ _ | .moveFile _ _ | .removeFile _ => false

theorem Request.readsKeep {β : Type} {request : Request β} (reads : request.reads = true)
    {world after : World} {answer : β} (answers : Answers world request answer after) : after = world := by
  have served : world.perform request = (answer, after) → after = world := by
    cases request with
    | workingDirectory | homeDirectory | isFile | isDirectory | readText =>
      exact fun same => (Prod.mk.inj same).2.symm
    | makeDirectory | createFile | writeText | moveFile | removeFile => contradiction
  have refused : Refuses world request answer after → after = world := by
    cases request with
    | workingDirectory | homeDirectory | isFile | isDirectory | readText => exact And.right
    | makeDirectory | createFile | writeText | moveFile | removeFile => contradiction
  exact answers.elim served refused

namespace Script

def ReadsOnly : Script α → Prop
  | .done _ => True
  | .ask request next => request.reads = true ∧ ∀ answer, (next answer).ReadsOnly

theorem ReadsOnly.runs {s : Script α} (reads : s.ReadsOnly) {world final : World}
    {between : List World} {result : α} (ran : s.Runs world between final result) :
    final = world ∧ ∀ w ∈ between, w = world := by
  induction ran with
  | done result world => exact ⟨rfl, List.forall_mem_nil _⟩
  | ask answers rest ih =>
    have same := Request.readsKeep reads.1 answers
    subst same
    obtain ⟨ended, others⟩ := ih (reads.2 _)
    exact ⟨ended, List.forall_mem_cons.mpr ⟨rfl, others⟩⟩

theorem ReadsOnly.bind {s : Script α} {f : α → Script γ} (first : s.ReadsOnly)
    (later : ∀ r, (f r).ReadsOnly) : (s.bind f).ReadsOnly := by
  induction s with
  | done result => exact later result
  | ask request next ih => exact ⟨first.1, fun answer => ih answer (first.2 answer)⟩

end Script

/- An attempt goes on only while nothing fails. -/
section
variable {x : Attempt ε α} {f : α → Attempt ε γ} {world final : World} {between : List World}

theorem alwaysBind {during : World → Prop} {ends : Except ε γ → World → Prop}
    (always : x.run.Always during (fun r w => match r with
      | .ok a => (f a).run.Always during ends w
      | .error e => ends (.error e) w) world) :
    (x >>= f).run.Always during ends world := by
  refine Script.Always.bind (always.mono fun r w ended => ?_)
  cases r with
  | ok a => exact ended
  | error e => exact ended

theorem alwaysLift {s : Script α} {during : World → Prop} {ends : Except ε α → World → Prop}
    (always : s.Always during (fun r w => ends (.ok r) w) world) :
    (ExceptT.lift s : Attempt ε α).run.Always during ends world :=
  Script.Always.bind always

/- An attempt comes out with the error of its first part, or with what the second part makes of its
value. -/
theorem runsAttempt {result : Except ε γ} (ran : (x >>= f).run.Runs world between final result) :
    (∃ e, x.run.Runs world between final (.error e) ∧ result = .error e) ∨
    ∃ front middle a back, x.run.Runs world front middle (.ok a) ∧
      (f a).run.Runs middle back final result ∧ between = front ++ back := by
  obtain ⟨front, middle, first, back, begun, rest, rfl⟩ := Script.runsBind ran
  cases first with
  | ok a => exact Or.inr ⟨front, middle, a, back, begun, rest, rfl⟩
  | error e =>
    cases rest
    rw [List.append_nil]
    exact Or.inl ⟨e, begun, rfl⟩

theorem runsAdapt {δ : Type} {wrap : ε → δ} {result : Except δ α}
    (ran : (x.adapt wrap).run.Runs world between final result) :
    ∃ r, x.run.Runs world between final r ∧ result = r.mapError wrap := by
  obtain ⟨front, middle, first, back, begun, rest, rfl⟩ := Script.runsBind ran
  cases rest
  rw [List.append_nil]
  exact ⟨first, begun, rfl⟩

theorem readsBind (first : x.run.ReadsOnly) (later : ∀ a, (f a).run.ReadsOnly) :
    (x >>= f).run.ReadsOnly := by
  refine first.bind fun r => ?_
  cases r with
  | ok a => exact later a
  | error e => trivial

theorem readsLift {s : Script α} (reads : s.ReadsOnly) :
    (ExceptT.lift s : Attempt ε α).run.ReadsOnly :=
  reads.bind fun _ => trivial

theorem readsAdapt {δ : Type} {wrap : ε → δ} (reads : x.run.ReadsOnly) :
    (x.adapt wrap).run.ReadsOnly :=
  reads.bind fun _ => trivial

theorem readsScript {request : Request α} (reads : request.reads = true) :
    request.script.ReadsOnly :=
  ⟨reads, fun _ => trivial⟩

theorem readsAttempt {request : Request (Except Fault α)} {wrap : Fault → ε}
    (reads : request.reads = true) : (request.attempt wrap).run.ReadsOnly :=
  (readsScript reads).bind fun _ => trivial

end
end DoubleDispatch.Storage
