import DoubleDispatch.Proofs.Emit.Generator
import DoubleDispatch.Proofs.Storage.Replace
import DoubleDispatch.Run.Execute

/-! What a run may do to the storage, whatever it is asked for and whatever is refused on the
way. -/
namespace DoubleDispatch.Input
open Storage

theorem readFileReads {α : Type} (subject : Subject) (decode : String → Except Flaw α)
    (path : Pathname) : (readFile subject decode path).run.ReadsOnly := by
  refine readsBind (readsAttempt rfl) fun text => ?_
  split <;> trivial

theorem settingsFileReads (path : Pathname) : (settingsFile path).run.ReadsOnly :=
  readsBind (readFileReads .settings settingsText path) fun _ => trivial

theorem firstFileReads (paths : List Pathname) : (firstFile paths).ReadsOnly := by
  induction paths with
  | nil => trivial
  | cons path rest ih =>
    refine (readsScript rfl).bind fun found => ?_
    cases found with
    | true => trivial
    | false => exact ih

theorem settingsReads (explicit : Option Pathname) : (settings explicit).run.ReadsOnly := by
  cases explicit with
  | some path => exact settingsFileReads path
  | none =>
    refine readsBind (readsAttempt rfl) fun directory => ?_
    refine readsBind (readsLift (firstFileReads _)) fun near => ?_
    have chosen : ∀ found, (match found with
        | some path => settingsFile path
        | none => pure Settings.standard : Attempt Error Settings).run.ReadsOnly := by
      intro found
      cases found with
      | some path => exact settingsFileReads path
      | none => trivial
    cases near with
    | some path => exact readsBind trivial chosen
    | none =>
      have home : homeSettings.ReadsOnly := (readsScript rfl).bind fun _ => trivial
      exact readsBind (readsLift home) fun path => readsBind (readsLift (firstFileReads _)) chosen

end DoubleDispatch.Input

namespace DoubleDispatch.Run
open Storage
open Emit (Artifact Generator)
open Catalog (Operations Terminals)

theorem liftErrorReads {ε α : Type} (wrap : ε → Error) (result : Except ε α) :
    (liftError wrap result).run.ReadsOnly := by
  cases result <;> trivial

theorem catalogsReads (path : Option Pathname) : (catalogs path).run.ReadsOnly := by
  cases path with
  | some path =>
    exact readsBind (readsAdapt (Input.readFileReads .listing Input.listingText path))
      fun listing => liftErrorReads .catalog listing.catalogs
  | none => exact readsBind (liftErrorReads .catalog _) fun _ => trivial

/- What is done once it is known which artifact is wanted. -/
def Invocation.textOf (invocation : Invocation) (artifact : Artifact) : Attempt Error String := do
  let settings ← (Input.settings invocation.settings).adapt Error.settings
  let found ← catalogs (invocation.catalog.or settings.catalogPath)
  let generator ← liftError .emission (Generator.make found.1 found.2 settings.names)
  liftError .emission (generator.artifact artifact)

theorem Invocation.textCases (invocation : Invocation) :
    invocation.text = match invocation.artifact? with
      | some artifact => invocation.textOf artifact
      | none => throw .usage := by
  unfold Invocation.text
  cases invocation.artifact? <;> rfl

theorem Invocation.textReads (invocation : Invocation) : invocation.text.run.ReadsOnly := by
  rw [invocation.textCases]
  split
  · refine readsBind (readsAdapt (Input.settingsReads _)) fun settings => ?_
    refine readsBind (catalogsReads _) fun found => ?_
    exact readsBind (liftErrorReads .emission _) fun generator => liftErrorReads .emission _
  · trivial

/- The text is the one that the generator writes for the artifact asked for, from the settings and
the catalogues that were read. -/
structure Selected (invocation : Invocation) (world : World) (text : String) : Prop where
  artifact : ∃ artifact settings operations terminals generator,
    invocation.artifact? = some artifact ∧
    (∃ between, (Input.settings invocation.settings).run.Runs world between world (.ok settings)) ∧
    (∃ between, (catalogs (invocation.catalog.or settings.catalogPath)).run.Runs world between world
      (.ok (operations, terminals))) ∧
    Generator.make operations terminals settings.names = .ok generator ∧
    generator.artifact artifact = .ok text

/- Errors of the steps before anything is written. -/
def Error.Early (error : Error) : Prop := ∀ path cause, error ≠ .output path cause

def Found (invocation : Invocation) (world : World) : Except Error String → Prop
  | .ok text => Selected invocation world text
  | .error error => error.Early

/- How a run ends, and what the storage was meanwhile: it was never touched, or the file could not
be written, or the file has been written. -/
inductive Course (invocation : Invocation) (world : World) :
    List World → World → Except Error Unit → Prop where
  | stopped {between : List World} {error : Error} (early : error.Early)
      (still : ∀ w ∈ between, w = world) : Course invocation world between world (.error error)
  | failed {between : List World} {final : World} {text : String} {cause : ReplaceError}
      (selected : Selected invocation world text)
      (whole : ∀ w ∈ between, World.Whole world invocation.output text w)
      (grown : World.Grown invocation.output.chain world final) :
      Course invocation world between final (.error (.output invocation.output cause))
  | written {between : List World} {final : World} {text : String}
      (selected : Selected invocation world text)
      (whole : ∀ w ∈ between, World.Whole world invocation.output text w)
      (replaced : World.Replaced world invocation.output text final) :
      Course invocation world between final (.ok ())

section
variable {ε α : Type} {wrap : ε → Error} {world final : World} {between : List World}

theorem adaptError {x : Attempt ε α} {error : Error}
    (ran : (x.adapt wrap).run.Runs world between final (.error error)) : ∃ e, error = wrap e := by
  obtain ⟨r, _, same⟩ := runsAdapt ran
  cases r with
  | ok value => cases same
  | error e => exact ⟨e, Except.error.inj same⟩

theorem adaptOk {x : Attempt ε α} {value : α}
    (ran : (x.adapt wrap).run.Runs world between final (.ok value)) :
    x.run.Runs world between final (.ok value) := by
  obtain ⟨r, ran, same⟩ := runsAdapt ran
  cases r with
  | ok found =>
    cases same
    exact ran
  | error e => cases same

theorem liftErrorError {x : Except ε α} {error : Error}
    (ran : (liftError wrap x).run.Runs world between final (.error error)) :
    ∃ e, error = wrap e := by
  cases x with
  | ok value => cases ran
  | error e =>
    cases ran
    exact ⟨e, rfl⟩

theorem liftErrorOk {x : Except ε α} {value : α}
    (ran : (liftError wrap x).run.Runs world between final (.ok value)) : x = .ok value := by
  cases x with
  | ok found =>
    cases ran
    rfl
  | error e => cases ran

theorem catalogsEarly {path : Option Pathname} {error : Error}
    (ran : (catalogs path).run.Runs world between final (.error error)) : error.Early := by
  cases path with
  | some path =>
    rcases runsAttempt ran with ⟨e, read, same⟩ | ⟨_, _, listing, _, _, lifted, _⟩
    · obtain ⟨e, rfl⟩ := adaptError read
      cases same
      exact fun _ _ => nofun
    · obtain ⟨e, rfl⟩ := liftErrorError lifted
      exact fun _ _ => nofun
  | none =>
    rcases runsAttempt ran with ⟨e, lifted, same⟩ | ⟨_, _, operations, _, _, done, _⟩
    · obtain ⟨e, rfl⟩ := liftErrorError lifted
      cases same
      exact fun _ _ => nofun
    · cases done

theorem textEnds {invocation : Invocation} {result : Except Error String}
    (ran : invocation.text.run.Runs world between final result) :
    Found invocation world result := by
  rw [invocation.textCases] at ran
  split at ran
  · rename_i artifact asked
    rcases runsAttempt ran with ⟨e, failed, rfl⟩ | ⟨_, middle, settings, _, read, listing, _⟩
    · obtain ⟨e, rfl⟩ := adaptError failed
      exact fun _ _ => nofun
    · have chosen := adaptOk read
      obtain ⟨rfl, _⟩ := (Input.settingsReads _).runs chosen
      rcases runsAttempt listing with ⟨e, failed, rfl⟩ | ⟨_, middle, found, _, listed, making, _⟩
      · exact catalogsEarly failed
      · obtain ⟨rfl, _⟩ := (catalogsReads _).runs listed
        rcases runsAttempt making with ⟨e, failed, rfl⟩ | ⟨_, _, generator, _, made, emitted, _⟩
        · obtain ⟨e, rfl⟩ := liftErrorError failed
          exact fun _ _ => nofun
        · cases result with
          | ok text =>
            exact ⟨artifact, settings, found.1, found.2, generator, asked, ⟨_, chosen⟩, ⟨_, listed⟩,
              liftErrorOk made, liftErrorOk emitted⟩
          | error e =>
            obtain ⟨e, rfl⟩ := liftErrorError emitted
            exact fun _ _ => nofun
  · cases ran
    exact fun _ _ => nofun

end

/- A run that fails before it writes touches nothing; one that fails later leaves no more than new
directories above the file; one that succeeds leaves the file, holding the text asked for. -/
theorem runIsAllOrNothing {invocation : Invocation} {world final : World} {between : List World}
    {outcome : Except Error Unit} (rooted : world.Rooted)
    (ran : invocation.execute.run.Runs world between final outcome) :
    Course invocation world between final outcome := by
  rcases runsAttempt ran with ⟨e, stopped, rfl⟩ | ⟨front, middle, text, back, begun, rest, rfl⟩
  · obtain ⟨rfl, still⟩ := invocation.textReads.runs stopped
    exact .stopped (textEnds stopped) still
  · obtain ⟨rfl, still⟩ := invocation.textReads.runs begun
    have selected : Selected invocation middle text := textEnds begun
    obtain ⟨r, replacing, rfl⟩ := runsAdapt rest
    obtain ⟨during, ended⟩ := replacing.always (replaceFileWhole invocation.output text rooted)
    have whole : ∀ w ∈ front ++ back, World.Whole middle invocation.output text w := by
      intro w member
      rcases List.mem_append.mp member with early | late
      · rw [still w early]
        exact (World.Grown.refl rooted).whole
      · exact during w late
    cases r with
    | ok done => exact .written selected whole ended
    | error cause => exact .failed selected whole ended

def emptyStorage : World := ⟨[], ⟨[], true⟩, none⟩

theorem emptyRooted : emptyStorage.Rooted := by
  intro q x held
  simp [World.item?, emptyStorage] at held

/- The manifest of the built-in catalogue. -/
def manifestInto (output : String) : Invocation := ⟨[.enumJson], ⟨output⟩, none, none, 0, false⟩

theorem manifestRunWrites :
    emptyStorage.Rooted ∧ ∃ between final,
      (manifestInto "include/exprenum.json").execute.run.Runs emptyStorage between final (.ok ()) ∧
      Course (manifestInto "include/exprenum.json") emptyStorage between final (.ok ()) := by
  have wrote :
      ((manifestInto "include/exprenum.json").execute.run.run emptyStorage).1 = .ok () := by
    decide +kernel
  obtain ⟨between, ran⟩ :=
    Script.runsServed (manifestInto "include/exprenum.json").execute.run emptyStorage
  rw [wrote] at ran
  exact ⟨emptyRooted, between, _, ran, runIsAllOrNothing emptyRooted ran⟩

/- A path that climbs back into a directory made on the way to it: where nothing was, a directory is
left, though the run fails. -/
theorem climbingOutputTaken :
    ((manifestInto "a/../a").execute.run.run emptyStorage).1 =
      .error (.output ⟨"a/../a"⟩ (.placing ⟨"/a/../.a.000999.tmp"⟩ .isDirectory)) ∧
    emptyStorage.isFile ⟨"a/../a"⟩ = false ∧ emptyStorage.isDirectory ⟨"a/../a"⟩ = false ∧
    ((manifestInto "a/../a").execute.run.run emptyStorage).2.isDirectory ⟨"a/../a"⟩ = true := by
  decide +kernel

end DoubleDispatch.Run
