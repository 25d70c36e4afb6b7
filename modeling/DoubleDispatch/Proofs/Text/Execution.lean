import DoubleDispatch.Proofs.Text.Statements
import Mathlib.Data.List.Nodup

/-! What statements do when they run: they are carried out in turn, a switch is entered at the label
that its subject equals, and at the default only when no label does. Nothing but a break, a return
or a throw keeps control from passing on to the statements of the next label. -/
namespace DoubleDispatch.Text

inductive Ending where
  | next
  | broken
  | returned (value : String)
  | thrown (error : String)
  deriving DecidableEq, Repr

/- The acts that were carried out, and how it came to an end. -/
structure Run where
  done : List String
  ending : Ending
  deriving DecidableEq, Repr

namespace Run

def andThen (first second : Run) : Run :=
  match first.ending with
  | .next => ⟨first.done ++ second.done, second.ending⟩
  | _ => first

/- A break leaves one switch only. -/
def outside (run : Run) : Run :=
  match run.ending with
  | .broken => ⟨run.done, .next⟩
  | _ => run

theorem andThenStops {first : Run} (stops : first.ending ≠ .next) (second : Run) :
    first.andThen second = first := by
  unfold andThen
  split
  · contradiction
  · rfl

theorem andThenAssoc (a b c : Run) : (a.andThen b).andThen c = a.andThen (b.andThen c) := by
  obtain ⟨_, ending⟩ := a
  cases ending with
  | next =>
    obtain ⟨_, last⟩ := b
    cases last <;> simp [andThen]
  | _ => rfl

theorem nextAndThen (run : Run) : (Run.mk [] .next).andThen run = run := rfl

end Run

/- The values that the subjects of switches and the labels stand for. -/
structure Meaning (V : Type) where
  subject : String → V
  label : String → V

/- A place that a switch can be entered at; the default has no name. -/
def Statement.label? : Statement → Option (Option String)
  | .label name => some (some name)
  | .fallback => some none
  | _ => none

section
variable {V : Type} [DecidableEq V] (m : Meaning V)

def Meaning.chosen (subject : String) (label : Option String) : Bool :=
  label.any fun name => m.label name = m.subject subject

mutual

def Statement.run : Statement → Run
  | .label _ | .fallback => ⟨[], .next⟩
  | .switch subject body =>
    (((entered (m.chosen subject) body).or (entered Option.isNone body)).getD ⟨[], .next⟩).outside
  | .leave => ⟨[], .broken⟩
  | .returns value => ⟨[], .returned value⟩
  | .throws error => ⟨[], .thrown error⟩
  | .act text => ⟨[text], .next⟩

def runAll : List Statement → Run
  | [] => ⟨[], .next⟩
  | s :: rest => (s.run).andThen (runAll rest)

/- What runs from the first wanted label on. -/
def entered (wanted : Option String → Bool) : List Statement → Option Run
  | [] => none
  | s :: rest => if s.label?.any wanted then some (runAll rest) else entered wanted rest

end

theorem runAllAppend (ss ts : List Statement) :
    runAll m (ss ++ ts) = (runAll m ss).andThen (runAll m ts) := by
  induction ss with
  | nil => rw [List.nil_append, runAll, Run.nextAndThen]
  | cons s rest ih => rw [List.cons_append, runAll, runAll, ih, Run.andThenAssoc]

theorem runAllSingle (s : Statement) : runAll m [s] = s.run m := by
  rw [runAll, runAll]
  obtain ⟨done, ending⟩ := s.run m
  cases ending <;> simp [Run.andThen]

theorem runAllStops {ss : List Statement} (stops : (runAll m ss).ending ≠ .next)
    (ts : List Statement) : runAll m (ss ++ ts) = runAll m ss := by
  rw [runAllAppend, Run.andThenStops stops]

theorem runActs (acts : List String) : runAll m (acts.map .act) = ⟨acts, .next⟩ := by
  induction acts with
  | nil => rw [List.map_nil, runAll]
  | cons act rest ih => rw [List.map_cons, runAll, ih, Statement.run, Run.andThen]; rfl

theorem enteredSkip {wanted : Option String → Bool} {ss : List Statement}
    (none : ∀ s ∈ ss, s.label?.any wanted = false) (ts : List Statement) :
    entered m wanted (ss ++ ts) = entered m wanted ts := by
  induction ss with
  | nil => rfl
  | cons s rest ih =>
    rw [List.cons_append, entered, none s (by simp), ih fun x member => none x (by simp [member])]
    rfl

end

/- Statements without a label of their own. -/
def Unlabelled (ss : List Statement) : Prop := ∀ s ∈ ss, s.label? = none

theorem Unlabelled.none {ss : List Statement} (unlabelled : Unlabelled ss)
    (wanted : Option String → Bool) : ∀ s ∈ ss, s.label?.any wanted = false :=
  fun s member => by rw [unlabelled s member, Option.any_none]

section
variable {α : Type} (label : α → String) (block : α → List Statement) (error : String)

/- The body of a switch with a label and statements for each item, and a default that throws. -/
def labelled (items : List α) : List Statement :=
  items.flatMap fun x => .label (label x) :: block x

def table (items : List α) : List Statement :=
  labelled label block items ++ [.fallback, .throws error]

variable {label block} {V : Type} [DecidableEq V] {m : Meaning V} {subject : String}
  {items : List α}

theorem tableCons (x : α) (rest : List α) : table label block error (x :: rest) =
    .label (label x) :: (block x ++ table label block error rest) := by
  rw [table, labelled, List.flatMap_cons, List.cons_append, List.cons_append, List.append_assoc]
  rfl

theorem enteredOther {x : α} {wanted : Option String → Bool} (unlabelled : Unlabelled (block x))
    (other : wanted (some (label x)) = false) (rest : List α) :
    entered m wanted (table label block error (x :: rest)) =
      entered m wanted (table label block error rest) := by
  rw [tableCons, entered, Statement.label?, Option.any_some, other,
    enteredSkip m (unlabelled.none wanted)]
  rfl

theorem enteredTable (unlabelled : ∀ x ∈ items, Unlabelled (block x)) {x : α} (member : x ∈ items)
    (chosen : m.label (label x) = m.subject subject)
    (only : ∀ y ∈ items, m.label (label y) = m.label (label x) → y = x)
    (stops : (runAll m (block x)).ending ≠ .next) :
    entered m (m.chosen subject) (table label block error items) = some (runAll m (block x)) := by
  induction items with
  | nil => exact absurd member List.not_mem_nil
  | cons y rest ih =>
    by_cases here : m.label (label y) = m.subject subject
    · obtain rfl : y = x := only y List.mem_cons_self (here.trans chosen.symm)
      have first : m.chosen subject (some (label y)) = true := by simp [Meaning.chosen, here]
      rw [tableCons, entered, Statement.label?, Option.any_some, first, if_pos rfl,
        runAllStops m stops]
    · have first : m.chosen subject (some (label y)) = false := by simp [Meaning.chosen, here]
      have later : x ∈ rest := by
        rcases List.mem_cons.mp member with rfl | later
        · exact absurd chosen here
        · exact later
      rw [enteredOther error (unlabelled y List.mem_cons_self) first]
      exact ih (fun z inside => unlabelled z (List.mem_cons_of_mem _ inside)) later
        fun z inside => only z (List.mem_cons_of_mem _ inside)

theorem enteredNone {wanted : Option String → Bool}
    (unlabelled : ∀ x ∈ items, Unlabelled (block x))
    (other : ∀ x ∈ items, wanted (some (label x)) = false) :
    entered m wanted (table label block error items) =
      if wanted none then some ⟨[], .thrown error⟩ else none := by
  induction items with
  | nil =>
    have thrown : runAll m [.throws error] = ⟨[], .thrown error⟩ := by
      rw [runAllSingle, Statement.run]
    simp [table, labelled, entered, Statement.label?, thrown]
  | cons y rest ih =>
    rw [enteredOther error (unlabelled y List.mem_cons_self) (other y List.mem_cons_self)]
    exact ih (fun z inside => unlabelled z (List.mem_cons_of_mem _ inside))
      fun z inside => other z (List.mem_cons_of_mem _ inside)

/- The statements of the item whose label the subject equals, and none of the others. -/
theorem switchSelects (unlabelled : ∀ x ∈ items, Unlabelled (block x)) {x : α} (member : x ∈ items)
    (chosen : m.label (label x) = m.subject subject)
    (only : ∀ y ∈ items, m.label (label y) = m.label (label x) → y = x)
    (stops : (runAll m (block x)).ending ≠ .next) :
    (Statement.switch subject (table label block error items)).run m =
      (runAll m (block x)).outside := by
  rw [Statement.run, enteredTable error unlabelled member chosen only stops]
  rfl

theorem switchThrows (unlabelled : ∀ x ∈ items, Unlabelled (block x))
    (other : ∀ x ∈ items, m.label (label x) ≠ m.subject subject) :
    (Statement.switch subject (table label block error items)).run m = ⟨[], .thrown error⟩ := by
  have none : ∀ x ∈ items, m.chosen subject (some (label x)) = false :=
    fun x member => by simp [Meaning.chosen, other x member]
  rw [Statement.run, enteredNone error unlabelled none,
    enteredNone error unlabelled fun _ _ => rfl]
  rfl

end

/- The labels of a switch, in their order. -/
def labels (body : List Statement) : List (Option String) := body.filterMap Statement.label?

section
variable {β : Type} (own : Statement → List β)

mutual

/- What each statement has of its own, with those inside of switches. -/
def Statement.collect : Statement → List β
  | .switch subject body => own (.switch subject body) ++ collectAll body
  | s => own s

def collectAll : List Statement → List β
  | [] => []
  | s :: rest => s.collect ++ collectAll rest

end

theorem collectAppend (ss ts : List Statement) :
    collectAll own (ss ++ ts) = collectAll own ss ++ collectAll own ts := by
  induction ss with
  | nil => rw [List.nil_append, collectAll, List.nil_append]
  | cons s rest ih => rw [List.cons_append, collectAll, collectAll, ih, List.append_assoc]

theorem collectActs (acts : List String) :
    collectAll own (acts.map .act) = acts.flatMap fun act => own (.act act) := by
  induction acts with
  | nil => rw [List.map_nil, collectAll, List.flatMap_nil]
  | cons act rest ih =>
    simp only [List.map_cons, collectAll, Statement.collect, ih, List.flatMap_cons]

end

def Statement.ownLabels : Statement → List (List (Option String))
  | .switch _ body => [labels body]
  | _ => []

def Statement.ownActs : Statement → List String
  | .act text => [text]
  | _ => []

/- The labels of every switch. -/
def switchesOf (ss : List Statement) : List (List (Option String)) :=
  collectAll Statement.ownLabels ss

def actsOf (ss : List Statement) : List String := collectAll Statement.ownActs ss

theorem actsOfActs (acts : List String) : actsOf (acts.map .act) = acts := by
  rw [actsOf, collectActs]
  exact List.flatMap_singleton' acts

section
variable {α : Type} (label : α → String) (block : α → List Statement) (error : String)

theorem tableLabels {items : List α} (unlabelled : ∀ x ∈ items, Unlabelled (block x)) :
    labels (table label block error items) = items.map (fun x => some (label x)) ++ [none] := by
  induction items with
  | nil => rfl
  | cons x rest ih =>
    have inside : (block x).filterMap Statement.label? = [] :=
      List.filterMap_eq_nil_iff.mpr (unlabelled x List.mem_cons_self)
    have more := ih fun y member => unlabelled y (List.mem_cons_of_mem _ member)
    rw [labels] at more ⊢
    rw [tableCons, List.filterMap_cons_some (f := Statement.label?) rfl, List.filterMap_append,
      inside, more]
    rfl

/- Neither the labels nor the default have anything of their own. -/
theorem collectTable {β : Type} {own : Statement → List β} (named : ∀ name, own (.label name) = [])
    (fallback : own .fallback = []) (thrown : own (.throws error) = []) (items : List α) :
    collectAll own (table label block error items) =
      items.flatMap fun x => collectAll own (block x) := by
  induction items with
  | nil => simp [table, labelled, collectAll, Statement.collect, fallback, thrown]
  | cons x rest ih =>
    simp only [tableCons, collectAll, collectAppend, ih, List.flatMap_cons, Statement.collect,
      named, List.nil_append]

theorem tableSwitches (items : List α) : switchesOf (table label block error items) =
    items.flatMap fun x => switchesOf (block x) :=
  collectTable label block error (fun _ => rfl) rfl rfl items

theorem tableActs (items : List α) : actsOf (table label block error items) =
    items.flatMap fun x => actsOf (block x) :=
  collectTable label block error (fun _ => rfl) rfl rfl items

theorem labelsDistinct {items : List α} (unlabelled : ∀ x ∈ items, Unlabelled (block x))
    (distinct : (items.map label).Nodup) : (labels (table label block error items)).Nodup := by
  rw [tableLabels label block error unlabelled, List.nodup_append]
  have some_ : items.map (fun x => some (label x)) = (items.map label).map some := by
    rw [List.map_map]
    rfl
  refine ⟨some_ ▸ distinct.map fun _ _ => Option.some.inj, List.nodup_singleton _, ?_⟩
  intro l inside l' last same
  obtain ⟨x, _, rfl⟩ := List.mem_map.mp inside
  rw [List.mem_singleton.mp last] at same
  contradiction

/- No switch has a label twice, nor has a switch inside of it. -/
def LabelsOnce (ss : List Statement) : Prop := ∀ ls ∈ switchesOf ss, ls.Nodup

/- Where no switch is, no label can be there twice. -/
theorem onceOfNone {ss : List Statement} (none : switchesOf ss = []) : LabelsOnce ss :=
  fun _ member => absurd (none ▸ member) List.not_mem_nil

theorem switchLabels (subject : String) (body : List Statement) :
    switchesOf [.switch subject body] = labels body :: switchesOf body := by
  simp only [switchesOf, collectAll, Statement.collect, Statement.ownLabels, List.append_nil,
    List.singleton_append]

theorem switchActs (subject : String) (body : List Statement) :
    actsOf [.switch subject body] = actsOf body := by
  simp only [actsOf, collectAll, Statement.collect, Statement.ownActs, List.append_nil,
    List.nil_append]

theorem LabelsOnce.append {ss ts : List Statement} (front : LabelsOnce ss) (back : LabelsOnce ts) :
    LabelsOnce (ss ++ ts) := by
  intro ls member
  rw [switchesOf, collectAppend, List.mem_append] at member
  exact member.elim (front ls) (back ls)

theorem actsOnce (acts : List String) : LabelsOnce (acts.map .act) := by
  refine onceOfNone ?_
  rw [switchesOf, collectActs]
  exact List.flatMap_eq_nil_iff.mpr fun _ _ => rfl

theorem tableOnce {items : List α} (unlabelled : ∀ x ∈ items, Unlabelled (block x))
    (distinct : (items.map label).Nodup) (inner : ∀ x ∈ items, LabelsOnce (block x))
    (subject : String) : LabelsOnce [.switch subject (table label block error items)] := by
  intro ls member
  rw [switchLabels, tableSwitches, List.mem_cons, List.mem_flatMap] at member
  rcases member with rfl | ⟨x, inside, place⟩
  · exact labelsDistinct label block error unlabelled distinct
  · exact inner x inside ls place

end
end DoubleDispatch.Text
