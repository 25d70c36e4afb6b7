import DoubleDispatch.Proofs.Storage.Effects
import DoubleDispatch.Proofs.Storage.Runs

/-! Replacing a file, whatever is refused on the way. The target is whole after each request; in the
end it is replaced, or nothing is there that was not there before but directories above it. -/
namespace DoubleDispatch.Storage
open World

variable {α : Type} {paths above : List Pathname} {world base w v : World}
  {path target scratch directory : Pathname} {place : Place} {content : ByteArray} {text : String}

theorem settled {change : Except Fault World} {answer : Except Fault Unit}
    (same : w.settle change = (answer, v)) :
    answer = .ok () ∧ change = .ok v ∨ (∃ fault, answer = .error fault) ∧ v = w := by
  cases change with
  | ok changed =>
    cases same
    exact Or.inl ⟨rfl, rfl⟩
  | error fault =>
    cases same
    exact Or.inr ⟨⟨fault, rfl⟩, rfl⟩

/- Where a refusal leaves all as it was, either the change was made or nothing happened. -/
theorem answered {request : Request (Except Fault Unit)} {change : Except Fault World}
    {answer : Except Fault Unit} (changes : w.perform request = w.settle change)
    (refuses : Refuses w request answer v → (∃ fault, answer = .error fault) ∧ v = w)
    (answers : Answers w request answer v) :
    answer = .ok () ∧ change = .ok v ∨ (∃ fault, answer = .error fault) ∧ v = w := by
  rcases answers with served | refused
  · exact settled (changes ▸ served)
  · exact Or.inr (refuses refused)

section
variable (grown : Grown paths world w)
include grown

theorem growAnswer {answer : Except Fault Unit} (member : path ∈ paths)
    (answers : Answers w (.makeDirectory path) answer v) : Grown paths world v := by
  rcases answered rfl id answers with ⟨_, ok⟩ | ⟨_, rfl⟩
  · exact grown.makeDirectory member ok
  · exact grown

theorem settleKeeps {during : World → Prop} (here : during w) (answer : Except Fault Unit) :
    (settleDirectory path answer).Always during (fun _ v => Grown paths world v) w := by
  cases answer with
  | ok made => exact grown
  | error fault =>
    intro answer after answers
    rw [Request.readsKeep rfl answers]
    refine ⟨here, ?_⟩
    cases answer <;> exact grown

end

theorem makeDirectoriesGrow {during : World → Prop} (wide : ∀ v, Grown paths world v → during v)
    (inside : ∀ path ∈ above, path ∈ paths) (grown : Grown paths world w) :
    (makeDirectories above).Always during (fun _ v => Grown paths world v) w := by
  induction above generalizing w with
  | nil => exact grown
  | cons path above ih =>
    obtain ⟨member, rest⟩ := List.forall_mem_cons.mp inside
    rw [makeDirectories]
    split
    · exact grown
    · intro answer after answers
      have first := growAnswer grown member answers
      refine ⟨wide _ first, ?_⟩
      dsimp only [Request.script, Script.bind]
      split
      · refine Script.Always.bind ((ih rest first).mono fun made w grown => ?_)
        cases made with
        | error fault => exact grown
        | ok _ =>
          intro answer after answers
          have second := growAnswer grown member answers
          exact ⟨wide _ second, settleKeeps second (wide _ second) answer⟩
      · exact settleKeeps first (wide _ first) answer

/- The directory that a target is staged in is absolute only if the target is. -/
theorem stagingDirectoryGrow {during : World → Prop}
    (wide : ∀ v, Grown target.chain world v → during v) (grown : Grown target.chain world w) :
    (stagingDirectory target).run.Always during (fun r v => Grown target.chain world v ∧
      ∀ directory, r = .ok directory → directory.isAbsolute = true →
        target.isAbsolute = true) w := by
  have dot : ∀ directory, (Except.ok ⟨"."⟩ : Except ReplaceError Pathname) = .ok directory →
      directory.isAbsolute = true → target.isAbsolute = true := by
    rintro directory same absolute
    cases same
    exact absurd absolute (by decide)
  rw [stagingDirectory]
  split
  · exact ⟨grown, dot⟩
  · rename_i parent found
    split
    · exact ⟨grown, dot⟩
    · have ways : target.chain = parent.ancestors := by rw [Pathname.chain, found]
      have made := makeDirectoriesGrow wide (fun path member => ways ▸ member) grown
      refine alwaysBind (alwaysLift (made.mono fun r w grown => ?_))
      cases r with
      | ok _ =>
        refine ⟨grown, fun directory same absolute => ?_⟩
        cases same
        exact Pathname.parentAbsolute found absolute
      | error fault => exact ⟨grown, fun directory same => nomatch same⟩

/- A path is made absolute only from a place that is still linked. -/
theorem absoluteLinked {during : World → Prop} (here : during w) :
    (absolute path).run.Always during (fun r v => v = w ∧
      ∀ found, r = .ok found → path.isAbsolute = true ∨ w.standing.linked = true) w := by
  rw [absolute]
  split
  · rename_i already
    exact ⟨rfl, fun _ _ => Or.inl already⟩
  · intro answer after answers
    have same := Request.readsKeep rfl answers
    subst same
    refine ⟨here, ?_⟩
    cases answer with
    | error fault => exact ⟨rfl, fun found same => nomatch same⟩
    | ok base =>
      refine ⟨rfl, fun _ _ => Or.inr ?_⟩
      rcases answers with served | ⟨⟨fault, refused⟩, _⟩
      · have found : after.workingDirectory = .ok base := congrArg Prod.fst served
        rw [workingDirectory] at found
        split at found
        · assumption
        · contradiction
      · contradiction

/- The first free scratch name is taken, and nothing else happens. -/
theorem reserveScratchStages {attempts : Nat} (grown : Grown target.chain world w)
    (linked : (w.start target).linked = true) :
    (reserveScratch directory (target.fileName?.getD "out") attempts).run.Always
      (Whole world target text) (fun r v => match r with
        | .ok scratch => ∃ base place, Grown target.chain world base ∧
            Staged base target scratch place ByteArray.empty v
        | .error _ => Grown target.chain world v) w := by
  induction attempts with
  | zero => exact grown
  | succ attempts ih =>
    rw [reserveScratch]
    refine alwaysBind (alwaysLift fun answer after answers => ?_)
    have creates : ∀ path, w.perform (.createFile path) = w.settle (w.createFile path) :=
      fun _ => rfl
    rcases answered (creates _) id answers with ⟨rfl, ok⟩ | ⟨⟨fault, rfl⟩, rfl⟩
    · obtain ⟨place, staged⟩ := createFileStaged linked rfl ok
      exact ⟨staged.whole grown, w, place, grown, staged⟩
    · refine ⟨grown.whole, ?_⟩
      cases fault with
      | alreadyExists => exact ih
      | _ => exact grown

/- The scratch file holds the text once it is written, and a refusal may have left a part of it. -/
theorem writeAnswer {answer : Except Fault Unit}
    (staged : Staged base target scratch place content w)
    (answers : Answers w (.writeText scratch text) answer v) :
    ∃ left, Staged base target scratch place left v ∧ (answer = .ok () → left = text.toUTF8) := by
  rcases answers with served | ⟨⟨fault, rfl⟩, rfl | ⟨position, old, left, reached, rfl⟩⟩
  · rcases settled served with ⟨rfl, ok⟩ | ⟨⟨fault, rfl⟩, rfl⟩
    · obtain ⟨position, old, reached, rfl⟩ := writeTextOk ok
      rw [staged.found] at reached
      cases reached
      exact ⟨_, staged.write text.toUTF8, fun _ => rfl⟩
    · exact ⟨content, staged, fun same => nomatch same⟩
  · exact ⟨content, staged, fun same => nomatch same⟩
  · rw [staged.found] at reached
    cases reached
    exact ⟨left, staged.write left, fun same => nomatch same⟩

/- A step that fails while the scratch file is there takes it away. -/
theorem discardGrows {step : Request (Except Fault Unit)} {wrap : Fault → ReplaceError}
    {during : World → Prop} {ends : Except ReplaceError Unit → World → Prop}
    (wide : ∀ v, Grown target.chain world v → during v)
    (failed : ∀ e v, Grown target.chain world v → ends (.error e) v)
    (does : ∀ answer v, Answers w step answer v → during v ∧ match answer with
      | .ok () => ends (.ok ()) v
      | .error _ => ∃ base place left, Grown target.chain world base ∧
          Staged base target scratch place left v) :
    (orDiscard scratch step wrap).run.Always during ends w := by
  rw [orDiscard]
  refine alwaysBind (alwaysLift fun answer after answers => ?_)
  obtain ⟨here, goes⟩ := does answer after answers
  refine ⟨here, ?_⟩
  cases answer with
  | ok made => exact goes
  | error fault =>
    obtain ⟨base, place, left, grown, staged⟩ := goes
    intro answer removed answers
    have gone : Grown target.chain world removed := by
      rcases answers with served | refused
      · rw [perform, removeFileFile staged.found] at served
        cases served
        exact staged.discard grown
      · exact refused.elim
    exact ⟨wide _ gone, failed _ _ gone⟩

/- The new text comes as a whole or not at all. -/
theorem replaceFileWhole (target : Pathname) (text : String) (rooted : world.Rooted) :
    (replaceFile target text).run.Always (Whole world target text) (fun r v => match r with
      | .ok _ => Replaced world target text v
      | .error _ => Grown target.chain world v) world := by
  have whole : ∀ v, Grown target.chain world v → Whole world target text v :=
    fun v grown => grown.whole
  refine alwaysBind ((stagingDirectoryGrow whole (Grown.refl rooted)).mono fun r w found => ?_)
  obtain ⟨grown, way⟩ := found
  cases r with
  | error e => exact grown
  | ok staging =>
    refine alwaysBind ((absoluteLinked grown.whole).mono fun r v found => ?_)
    obtain ⟨rfl, place⟩ := found
    cases r with
    | error e => exact grown
    | ok directory =>
      have linked : (v.start target).linked = true := by
        rw [start]
        split
        · rfl
        · rename_i relative
          exact (place directory rfl).resolve_left fun absolute =>
            relative (way staging rfl absolute)
      refine alwaysBind ((reserveScratchStages grown linked).mono fun r w found => ?_)
      cases r with
      | error e => exact found
      | ok scratch =>
        obtain ⟨base, place, grown, staged⟩ := found
        refine alwaysBind (discardGrows whole (fun e v grown => grown) fun answer v answers => ?_)
        obtain ⟨left, written, text⟩ := writeAnswer staged answers
        refine ⟨written.whole grown, ?_⟩
        cases answer with
        | error fault => exact ⟨base, place, left, grown, written⟩
        | ok done =>
          cases text rfl
          refine discardGrows whole (fun e v grown => grown) fun answer u answers => ?_
          rcases answered rfl id answers with ⟨rfl, ok⟩ | ⟨⟨fault, rfl⟩, rfl⟩
          · have replaced := written.moved grown ok
            exact ⟨replaced.whole, replaced⟩
          · exact ⟨written.whole grown, base, place, _, grown, written⟩

end DoubleDispatch.Storage
