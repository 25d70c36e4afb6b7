import DoubleDispatch.Input.File
import DoubleDispatch.Proofs.Storage.Views

/-! Where settings come from. What is found where is told case by case, with every question that is
asked on the way: the first source that is there is used, and what is wrong with it is the result; a
later source is not even asked for. -/
namespace DoubleDispatch.Input
open Storage (Pathname Request Script Attempt Fault View Question Consults consultsAsk consultsDone
  consultsOk consultsEnd consultsError consultsLift consultsAttempt)

variable {α : Type} {view : View}

/- What comes of a file that is used, whatever else there is. -/
inductive Obtained (view : View) (subject : Subject) (decode : String → Except Flaw α)
    (path : Pathname) : Except Error α → Prop where
  | unreadable {fault : Fault} (failed : view.readText path = .error fault) :
      Obtained view subject decode path (.error (.unreadable subject path fault))
  | flawed {text : String} {flaw : Flaw} (read : view.readText path = .ok text)
      (wrong : decode text = .error flaw) :
      Obtained view subject decode path (.error (.flawedFile subject path flaw))
  | held {text : String} {value : α} (read : view.readText path = .ok text)
      (fits : decode text = .ok value) : Obtained view subject decode path (.ok value)

/- The way up from a directory, one directory after the other, to the first with a settings file. -/
inductive Search (view : View) : Pathname → List Pathname → Option Pathname → Prop where
  | here {directory : Pathname} (there : view.isFile (settingsIn directory) = true) :
      Search view directory [directory] (some directory)
  | above {directory parent : Pathname} {passed : List Pathname} {found : Option Pathname}
      (bare : view.isFile (settingsIn directory) = false) (up : directory.parent? = some parent)
      (rest : Search view parent passed found) : Search view directory (directory :: passed) found
  | nowhere {directory : Pathname} (bare : view.isFile (settingsIn directory) = false)
      (top : directory.parent? = none) : Search view directory [directory] none

def searched (passed : List Pathname) : List Question :=
  .workingDirectory :: passed.map fun directory => .isFile (settingsIn directory)

def sourced (path : Pathname) (settings : Settings) : Settings :=
  { settings with source := some path }

/- The settings of a run, with the questions that are asked for them. -/
inductive Resolved (view : View) : Option Pathname → List Question → Except Error Settings → Prop where
  | explicit {path : Pathname} {result : Except Error Settings}
      (used : Obtained view .settings settingsText path result) :
      Resolved view (some path) [.readText path] (result.map (sourced path))
  | unplaced {fault : Fault} (lost : view.workingDirectory = .error fault) :
      Resolved view none [.workingDirectory] (.error (.noWorkingDirectory fault))
  | project {directory nearest : Pathname} {passed : List Pathname} {result : Except Error Settings}
      (placed : view.workingDirectory = .ok directory)
      (found : Search view directory passed (some nearest))
      (used : Obtained view .settings settingsText (settingsIn nearest) result) :
      Resolved view none (searched passed ++ [.readText (settingsIn nearest)])
        (result.map (sourced (settingsIn nearest)))
  | home {directory home : Pathname} {passed : List Pathname} {result : Except Error Settings}
      (placed : view.workingDirectory = .ok directory) (bare : Search view directory passed none)
      (known : view.home = some home) (there : view.isFile (settingsIn home) = true)
      (used : Obtained view .settings settingsText (settingsIn home) result) :
      Resolved view none (searched passed ++
        [.homeDirectory, .isFile (settingsIn home), .readText (settingsIn home)])
        (result.map (sourced (settingsIn home)))
  | bareHome {directory home : Pathname} {passed : List Pathname}
      (placed : view.workingDirectory = .ok directory) (bare : Search view directory passed none)
      (known : view.home = some home) (absent : view.isFile (settingsIn home) = false) :
      Resolved view none (searched passed ++ [.homeDirectory, .isFile (settingsIn home)])
        (.ok Settings.standard)
  | homeless {directory : Pathname} {passed : List Pathname}
      (placed : view.workingDirectory = .ok directory) (bare : Search view directory passed none)
      (unknown : view.home = none) :
      Resolved view none (searched passed ++ [.homeDirectory]) (.ok Settings.standard)

section
variable {subject : Subject} {decode : String → Except Flaw α} {path : Pathname}

theorem obtainedSome (view : View) (subject : Subject) (decode : String → Except Flaw α)
    (path : Pathname) : ∃ result, Obtained view subject decode path result := by
  cases read : view.readText path with
  | error fault => exact ⟨_, .unreadable read⟩
  | ok text =>
    cases decoded : decode text with
    | error flaw => exact ⟨_, .flawed read decoded⟩
    | ok value => exact ⟨_, .held read decoded⟩

theorem Obtained.consults {result : Except Error α} (obtained : Obtained view subject decode path result) :
    Consults view (readFile subject decode path).run [.readText path] result := by
  have asked : Consults view ((Request.readText path).attempt (Error.unreadable subject path)).run
      [.readText path] _ := consultsAttempt rfl
  cases obtained with
  | unreadable failed =>
    rw [failed] at asked
    exact consultsError asked
  | flawed read wrong =>
    rw [read] at asked
    refine consultsEnd asked ?_
    rw [wrong]
    exact consultsDone _
  | held read fits =>
    rw [read] at asked
    refine consultsEnd asked ?_
    rw [fits]
    exact consultsDone _

end

theorem settingsFileConsults {path : Pathname} {result : Except Error Settings}
    (used : Obtained view .settings settingsText path result) :
    Consults view (settingsFile path).run [.readText path] (result.map (sourced path)) := by
  cases result with
  | error error => exact consultsError used.consults
  | ok settings =>
    refine consultsEnd used.consults ?_
    exact consultsDone _

section
variable {path : Pathname} {rest : List Pathname}

theorem firstFileFound (there : view.isFile path = true) :
    Consults view (firstFile (path :: rest)) [.isFile path] (some path) := by
  have asked : Consults view (Request.isFile path).script [.isFile path] true :=
    there ▸ consultsAsk rfl
  exact asked.last rfl

theorem firstFilePassed (bare : view.isFile path = false) {asked : List Question}
    {found : Option Pathname} (later : Consults view (firstFile rest) asked found) :
    Consults view (firstFile (path :: rest)) (.isFile path :: asked) found := by
  have here : Consults view (Request.isFile path).script [.isFile path] false :=
    bare ▸ consultsAsk rfl
  exact here.bind later

end

theorem Search.consults {directory : Pathname} {passed : List Pathname} {found : Option Pathname}
    (search : Search view directory passed found) :
    Consults view (projectSettings directory)
      (passed.map fun directory => .isFile (settingsIn directory)) (found.map settingsIn) := by
  unfold projectSettings
  induction search with
  | here there =>
    rw [Pathname.ancestorsUp]
    exact firstFileFound there
  | above bare up rest ih =>
    rw [Pathname.ancestorsUp, up]
    exact firstFilePassed bare ih
  | nowhere bare top =>
    rw [Pathname.ancestorsUp, top]
    exact firstFilePassed bare (consultsDone none)

/- The way up ends, since every parent is nearer to the top. -/
theorem searchSome (view : View) (directory : Pathname) :
    ∃ passed found, Search view directory passed found := by
  induction steps : directory.steps using Nat.strong_induction_on generalizing directory with
  | _ n ih =>
    cases there : view.isFile (settingsIn directory) with
    | true => exact ⟨_, _, .here there⟩
    | false =>
      cases up : directory.parent? with
      | none => exact ⟨_, _, .nowhere there up⟩
      | some parent =>
        obtain ⟨_, _, rest⟩ := ih _ (steps ▸ Pathname.parentNearer up) parent rfl
        exact ⟨_, _, .above there up rest⟩

/- The settings file that was chosen, or none. -/
def chosenSettings : Option Pathname → Attempt Error Settings
  | some path => settingsFile path
  | none => pure Settings.standard

/- What is done when the project has no settings file. -/
def homeOrStandard : Attempt Error Settings := do
  let path ← homeSettings
  chosenSettings (← firstFile path.toList)

def settingsAfter : Option Pathname → Attempt Error Settings
  | some path => settingsFile path
  | none => homeOrStandard

theorem settingsSteps : settings none =
    Request.workingDirectory.attempt Error.noWorkingDirectory >>= fun directory =>
      ExceptT.lift (projectSettings directory) >>= settingsAfter := by
  refine bind_congr fun directory => bind_congr fun near => ?_
  cases near <;> rfl

section
variable {directory : Pathname} {passed : List Pathname} {found : Option Pathname}
  {more : List Question} {result : Except Error Settings}

theorem directoryConsults (view : View) :
    Consults view (Request.workingDirectory.attempt Error.noWorkingDirectory).run
      [.workingDirectory] (view.workingDirectory.mapError .noWorkingDirectory) :=
  consultsAttempt rfl

theorem placedConsults (placed : view.workingDirectory = .ok directory)
    (search : Search view directory passed found)
    (rest : Consults view (settingsAfter (found.map settingsIn)).run more result) :
    Consults view (settings none).run (searched passed ++ more) result := by
  have asked := directoryConsults view
  rw [placed] at asked
  rw [settingsSteps, searched, List.cons_append, ← List.singleton_append]
  exact consultsOk asked (consultsOk (consultsLift search.consults) rest)

theorem homeConsults {home : Option Pathname} {near : Option Pathname} {looked : List Question}
    (known : view.home = home)
    (search : Consults view (firstFile (home.map settingsIn).toList) looked near)
    (rest : Consults view (chosenSettings near).run more result) :
    Consults view homeOrStandard.run (.homeDirectory :: (looked ++ more)) result := by
  have asked : Consults view homeSettings [.homeDirectory] (home.map settingsIn) :=
    (known ▸ consultsAsk rfl : Consults view Request.homeDirectory.script _ home).last rfl
  exact consultsOk (consultsLift asked) (consultsOk (consultsLift search) rest)

end

theorem Resolved.consults {explicit : Option Pathname} {asked : List Question}
    {result : Except Error Settings} (resolved : Resolved view explicit asked result) :
    Consults view (settings explicit).run asked result := by
  cases resolved with
  | explicit used => exact settingsFileConsults used
  | unplaced lost =>
    have asked := directoryConsults view
    rw [lost] at asked
    exact consultsError asked
  | project placed found used => exact placedConsults placed found (settingsFileConsults used)
  | home placed bare known there used =>
    exact placedConsults placed bare
      (homeConsults known (firstFileFound there) (settingsFileConsults used))
  | bareHome placed bare known absent =>
    exact placedConsults placed bare
      (homeConsults known (firstFilePassed absent (consultsDone none)) (consultsDone _))
  | homeless placed bare unknown =>
    exact placedConsults placed bare (homeConsults unknown (consultsDone none) (consultsDone _))

theorem resolvedSome (view : View) (explicit : Option Pathname) :
    ∃ asked result, Resolved view explicit asked result := by
  have used := fun path => obtainedSome view .settings settingsText path
  cases explicit with
  | some path =>
    obtain ⟨_, used⟩ := used path
    exact ⟨_, _, .explicit used⟩
  | none =>
    cases placed : view.workingDirectory with
    | error fault => exact ⟨_, _, .unplaced placed⟩
    | ok directory =>
      obtain ⟨_, found, search⟩ := searchSome view directory
      cases found with
      | some nearest =>
        obtain ⟨_, used⟩ := used (settingsIn nearest)
        exact ⟨_, _, .project placed search used⟩
      | none =>
        cases known : view.home with
        | none => exact ⟨_, _, .homeless placed search known⟩
        | some home =>
          cases there : view.isFile (settingsIn home) with
          | false => exact ⟨_, _, .bareHome placed search known there⟩
          | true =>
            obtain ⟨_, used⟩ := used (settingsIn home)
            exact ⟨_, _, .home placed search known there used⟩

theorem Obtained.directory {subject : Subject} {decode : String → Except Flaw α} {path : Pathname}
    {value : α} (used : Obtained view subject decode path (.ok value)) : path.parent? ≠ none := by
  cases used with
  | held read fits => exact view.named path _ read

/- A file that settings were read from lies in a directory. -/
theorem Resolved.directory {explicit : Option Pathname} {asked : List Question} {settings : Settings}
    (resolved : Resolved view explicit asked (.ok settings)) {path : Pathname}
    (source : settings.source = some path) : path.parent? ≠ none := by
  have used : ∀ {file result}, Obtained view .settings settingsText file result →
      result.map (sourced file) = .ok settings → path.parent? ≠ none := by
    intro file result obtained same
    obtain ⟨_, rfl, rfl⟩ := Outcome.mapOk.mp same
    cases source
    exact obtained.directory
  generalize ended : (.ok settings : Except Error Settings) = result at resolved
  cases resolved with
  | explicit obtained | project _ _ obtained | home _ _ _ _ obtained => exact used obtained ended.symm
  | unplaced => cases ended
  | bareHome | homeless =>
    cases ended
    cases source

end DoubleDispatch.Input
