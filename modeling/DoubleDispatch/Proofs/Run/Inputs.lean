import DoubleDispatch.Proofs.Input.Settings
import DoubleDispatch.Proofs.Run.Execute

/-! What a run is made from. Settings and catalogues are resolved in a fixed order of precedence; the
relations below say case by case where they come from and which questions are asked for them. For
every invocation and every view of a storage there is exactly one such case, and a run does just
that, asks just that, and changes nothing before it has the whole text. -/
namespace DoubleDispatch.Run
open Storage
open Input (Resolved Obtained resolvedSome obtainedSome)
open Emit (Artifact Generator)
open Catalog (Operations Terminals Listing)

structure Inputs where
  settings : Settings
  operations : Operations
  terminals : Terminals

/- The catalogue file to use: the one that is asked for, else the one that the settings name, seen from
the directory of the file they were read from. -/
inductive Chosen (settings : Settings) : Option Pathname → Option Pathname → Prop where
  | asked {path : Pathname} : Chosen settings (some path) (some path)
  | absolute {path : Pathname} (named : settings.catalog = some path)
      (rooted : path.isAbsolute = true) : Chosen settings none (some path)
  | sourceless {path : Pathname} (named : settings.catalog = some path)
      (nowhere : settings.source = none) : Chosen settings none (some path)
  | beside {path source directory : Pathname} (named : settings.catalog = some path)
      (relative : path.isAbsolute = false) (read : settings.source = some source)
      (inside : source.parent? = some directory) :
      Chosen settings none (some (directory.join path))
  | reference (unnamed : settings.catalog = none) : Chosen settings none none

inductive CatalogsRead (view : View) :
    Option Pathname → List Question → Except Error (Operations × Terminals) → Prop where
  | unread {path : Pathname} {error : Input.Error}
      (failed : Obtained view .listing Input.listingText path (.error error)) :
      CatalogsRead view (some path) [.readText path] (.error (.listing error))
  | read {path : Pathname} {listing : Listing}
      (held : Obtained view .listing Input.listingText path (.ok listing)) :
      CatalogsRead view (some path) [.readText path] (listing.catalogs.mapError .catalog)
  | reference {operations : Operations} (built : Catalog.referenceOperations = .ok operations) :
      CatalogsRead view none [] (.ok (operations, .reference))

inductive InputsRead (view : View) (invocation : Invocation) :
    List Question → Except Error Inputs → Prop where
  | unresolved {asked : List Question} {error : Input.Error}
      (failed : Resolved view invocation.settings asked (.error error)) :
      InputsRead view invocation asked (.error (.settings error))
  | resolved {asked more : List Question} {settings : Settings} {path : Option Pathname}
      {found : Except Error (Operations × Terminals)}
      (settled : Resolved view invocation.settings asked (.ok settings))
      (chosen : Chosen settings invocation.catalog path) (read : CatalogsRead view path more found) :
      InputsRead view invocation (asked ++ more)
        (found.map fun catalogs => ⟨settings, catalogs.1, catalogs.2⟩)

/- What is made of the inputs. -/
def emitted (artifact : Artifact) (inputs : Inputs) : Except Error String := do
  let generator ← (Generator.make inputs.operations inputs.terminals inputs.settings.names).mapError
    .emission
  (generator.artifact artifact).mapError .emission

section
variable {settings : Settings} {asked path : Option Pathname}

theorem Chosen.catalogPath (chosen : Chosen settings asked path) :
    asked.or settings.catalogPath = path := by
  cases chosen with
  | asked => rfl
  | absolute named rooted =>
    simp only [Option.none_or, Settings.catalogPath, named, Option.map_some, rooted, if_true]
    split <;> rfl
  | sourceless named nowhere => simp [Settings.catalogPath, named, nowhere]
  | beside named relative read inside =>
    simp [Settings.catalogPath, named, relative, read, inside]
  | reference unnamed => simp [Settings.catalogPath, unnamed]

theorem chosenSome (asked : Option Pathname)
    (placed : ∀ path, settings.source = some path → path.parent? ≠ none) :
    ∃ path, Chosen settings asked path := by
  cases asked with
  | some path => exact ⟨_, .asked⟩
  | none =>
    cases named : settings.catalog with
    | none => exact ⟨_, .reference named⟩
    | some path =>
      cases rooted : path.isAbsolute with
      | true => exact ⟨_, .absolute named rooted⟩
      | false =>
        cases read : settings.source with
        | none => exact ⟨_, .sourceless named read⟩
        | some source =>
          obtain ⟨directory, inside⟩ := Option.ne_none_iff_exists'.mp (placed source read)
          exact ⟨_, .beside named rooted read inside⟩

end

theorem referenceBuilt : ∃ operations, Catalog.referenceOperations = .ok operations := by
  have fits : Catalog.referenceOperations.toOption.isSome = true := by decide +kernel
  cases built : Catalog.referenceOperations with
  | ok operations => exact ⟨operations, rfl⟩
  | error error =>
    rw [built] at fits
    contradiction

section
variable {view : View} {path : Option Pathname} {asked : List Question}

theorem liftErrorConsults {ε α : Type} (view : View) (wrap : ε → Error) (result : Except ε α) :
    Consults view (liftError wrap result).run [] (result.mapError wrap) := by
  cases result <;> exact consultsDone _

theorem CatalogsRead.consults {found : Except Error (Operations × Terminals)}
    (read : CatalogsRead view path asked found) : Consults view (catalogs path).run asked found := by
  cases read with
  | unread failed => exact consultsError (consultsAdapt failed.consults)
  | read held =>
    refine consultsEnd (consultsAdapt held.consults) ?_
    exact liftErrorConsults view .catalog _
  | @reference operations built =>
    have listed : Consults view (liftError Error.catalog Catalog.referenceOperations).run []
        (.ok operations) := by
      rw [built]
      exact consultsDone _
    refine consultsEnd listed ?_
    exact consultsDone _

theorem catalogsReadSome (view : View) (path : Option Pathname) :
    ∃ asked found, CatalogsRead view path asked found := by
  cases path with
  | none =>
    obtain ⟨_, built⟩ := referenceBuilt
    exact ⟨_, _, .reference built⟩
  | some path =>
    obtain ⟨result, obtained⟩ := obtainedSome view .listing Input.listingText path
    cases result with
    | error error => exact ⟨_, _, .unread obtained⟩
    | ok listing => exact ⟨_, _, .read obtained⟩

theorem inputsReadSome (view : View) (invocation : Invocation) :
    ∃ asked inputs, InputsRead view invocation asked inputs := by
  obtain ⟨asked, result, settled⟩ := resolvedSome view invocation.settings
  cases result with
  | error error => exact ⟨_, _, .unresolved settled⟩
  | ok settings =>
    obtain ⟨path, chosen⟩ := chosenSome invocation.catalog fun _ => settled.directory
    obtain ⟨more, found, read⟩ := catalogsReadSome view path
    exact ⟨_, _, .resolved settled chosen read⟩

theorem emittedConsults (artifact : Artifact) (inputs : Inputs) :
    Consults view (liftError .emission
        (Generator.make inputs.operations inputs.terminals inputs.settings.names) >>= fun generator =>
      liftError .emission (generator.artifact artifact)).run [] (emitted artifact inputs) := by
  have made := liftErrorConsults view Error.emission
    (Generator.make inputs.operations inputs.terminals inputs.settings.names)
  unfold emitted
  cases outcome : Generator.make inputs.operations inputs.terminals inputs.settings.names with
  | error error =>
    rw [outcome] at made
    exact consultsError made
  | ok generator =>
    rw [outcome] at made
    refine consultsEnd made ?_
    exact liftErrorConsults view .emission (generator.artifact artifact)

theorem InputsRead.consults {invocation : Invocation} {inputs : Except Error Inputs}
    (read : InputsRead view invocation asked inputs) (artifact : Artifact) :
    Consults view (invocation.textOf artifact).run asked (inputs >>= emitted artifact) := by
  cases read with
  | unresolved failed => exact consultsError (consultsAdapt failed.consults)
  | @resolved asked more settings path found settled chosen read =>
    refine consultsOk (consultsAdapt settled.consults) ?_
    rw [chosen.catalogPath]
    cases found with
    | error error => exact consultsError read.consults
    | ok catalogs =>
      refine consultsEnd read.consults ?_
      exact emittedConsults artifact ⟨settings, catalogs.1, catalogs.2⟩

theorem InputsRead.unique {invocation : Invocation} {others : List Question}
    {inputs found : Except Error Inputs} (first : InputsRead view invocation asked inputs)
    (second : InputsRead view invocation others found) : others = asked ∧ found = inputs := by
  cases first with
  | unresolved failed =>
    cases second with
    | unresolved again =>
      obtain ⟨rfl, same⟩ := failed.consults.unique again.consults
      cases same
      exact ⟨rfl, rfl⟩
    | resolved settled chosen read =>
      have same := (failed.consults.unique settled.consults).2
      contradiction
  | resolved settled chosen read =>
    cases second with
    | unresolved failed =>
      have same := (settled.consults.unique failed.consults).2
      contradiction
    | resolved again chosenAgain readAgain =>
      obtain ⟨rfl, same⟩ := settled.consults.unique again.consults
      cases same
      obtain rfl := chosen.catalogPath.symm.trans chosenAgain.catalogPath
      obtain ⟨rfl, rfl⟩ := read.consults.unique readAgain.consults
      exact ⟨rfl, rfl⟩

end

/- Where the inputs come from is settled for every view, and in one way only; a run asks for nothing
else, and what is wrong with an input that counts is its result. -/
theorem inputsByPrecedence {invocation : Invocation} {artifact : Artifact}
    (wanted : invocation.artifact? = some artifact) :
    (∀ view : View, ∃ asked inputs, InputsRead view invocation asked inputs ∧
      (∀ others found, InputsRead view invocation others found → others = asked ∧ found = inputs) ∧
      Consults view invocation.text.run asked (inputs >>= emitted artifact)) ∧
    ∀ world : World, ∃ asked inputs, InputsRead world.view invocation asked inputs ∧
      invocation.text.run.run world = (inputs >>= emitted artifact, world) ∧
      ∀ error, inputs = .error error →
        invocation.execute.run.run world = (.error error, world) := by
  have each : ∀ view : View, ∃ asked inputs, InputsRead view invocation asked inputs ∧
      Consults view invocation.text.run asked (inputs >>= emitted artifact) := by
    intro view
    obtain ⟨asked, inputs, read⟩ := inputsReadSome view invocation
    have ran := read.consults artifact
    rw [invocation.textCases, wanted]
    exact ⟨asked, inputs, read, ran⟩
  refine ⟨fun view => ?_, fun world => ?_⟩
  · obtain ⟨asked, inputs, read, ran⟩ := each view
    exact ⟨asked, inputs, read, fun _ _ => read.unique, ran⟩
  · obtain ⟨asked, inputs, read, ran⟩ := each world.view
    refine ⟨asked, inputs, read, ran.run, fun error failed => ?_⟩
    rw [failed] at ran
    have stopped : Consults world.view invocation.execute.run asked (.error error) :=
      consultsError ran
    exact stopped.run

/- The working directory has a directory where the settings file would be, the one above it has a file
that says nothing, and the file at home is fine. -/
def brokenProject : World where
  entries :=
    [(["p"], .directory), (["p", ".rdag"], .directory),
     (["p", ".rdag", "config.toml"], .file "[emit".toUTF8), (["p", "q"], .directory),
     (["p", "q", ".rdag"], .directory), (["p", "q", ".rdag", "config.toml"], .directory),
     (["home"], .directory), (["home", ".rdag"], .directory),
     (["home", ".rdag", "config.toml"], .file "".toUTF8)]
  standing := ⟨["p", "q"], true⟩
  home := some ⟨"/home"⟩

def brokenFile : Pathname := ⟨"/p/.rdag/config.toml"⟩

theorem brokenProjectCounts : (manifestInto "exprenum.json").artifact? = some .enumJson ∧
    InputsRead brokenProject.view (manifestInto "exprenum.json")
      [.workingDirectory, .isFile ⟨"/p/q/.rdag/config.toml"⟩, .isFile brokenFile,
        .readText brokenFile]
      (.error (.settings (.flawedFile .settings brokenFile .malformed))) ∧
    (manifestInto "exprenum.json").execute.run.run brokenProject =
      (.error (.settings (.flawedFile .settings brokenFile .malformed)), brokenProject) := by
  have wanted : (manifestInto "exprenum.json").artifact? = some .enumJson := by decide
  have search : Input.Search brokenProject.view ⟨"/p/q"⟩ [⟨"/p/q"⟩, ⟨"/p"⟩] (some ⟨"/p"⟩) :=
    .above (by decide +kernel) (by decide +kernel) (.here (by decide +kernel))
  have text : brokenProject.view.readText brokenFile = .ok "[emit" := by decide +kernel
  have wrong : Input.settingsText "[emit" = .error .malformed := by decide +kernel
  have settled : Resolved brokenProject.view none
      [.workingDirectory, .isFile ⟨"/p/q/.rdag/config.toml"⟩, .isFile brokenFile,
        .readText brokenFile]
      (.error (.flawedFile .settings brokenFile .malformed)) :=
    .project (by decide +kernel) search (.flawed text wrong)
  have read : InputsRead brokenProject.view (manifestInto "exprenum.json") _ _ :=
    .unresolved settled
  obtain ⟨asked, inputs, found, _, stopped⟩ := (inputsByPrecedence wanted).2 brokenProject
  exact ⟨wanted, read, stopped _ (read.unique found).2⟩

end DoubleDispatch.Run
