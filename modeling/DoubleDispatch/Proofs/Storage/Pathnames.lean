import DoubleDispatch.Storage.Replace
import Mathlib.Data.List.Basic

/-! Segments of paths: what a path gets by being joined with a name, where its file name comes from,
and that a scratch name, being longer than the name it stands beside, is never that name. -/
namespace DoubleDispatch.Storage

theorem splitSlashesSome (cs : List Char) : splitSlashes cs ≠ [] := by
  cases cs with
  | nil => simp [splitSlashes]
  | cons c cs =>
    rw [splitSlashes]
    split
    · simp
    · split <;> simp

theorem splitSlashesFree {cs : List Char} (free : '/' ∉ cs) : splitSlashes cs = [cs] := by
  induction cs with
  | nil => rfl
  | cons c cs ih =>
    rw [List.mem_cons, not_or] at free
    rw [splitSlashes, if_neg (Ne.symm free.1), ih free.2]

theorem splitSlashesAppend (cs ds : List Char) :
    splitSlashes (cs ++ '/' :: ds) = splitSlashes cs ++ splitSlashes ds := by
  induction cs with
  | nil => simp [splitSlashes]
  | cons c cs ih =>
    rw [List.cons_append, splitSlashes, splitSlashes, ih]
    split
    · rfl
    · cases first : splitSlashes cs with
      | nil => exact absurd first (splitSlashesSome cs)
      | cons part rest => rfl

theorem splitSlashesParts (cs : List Char) : ∀ part ∈ splitSlashes cs, '/' ∉ part := by
  induction cs with
  | nil => simp [splitSlashes]
  | cons c cs ih =>
    rw [splitSlashes]
    split
    · exact List.forall_mem_cons.mpr ⟨List.not_mem_nil, ih⟩
    · rename_i other
      cases first : splitSlashes cs with
      | nil => exact absurd first (splitSlashesSome cs)
      | cons part rest =>
        rw [first, List.forall_mem_cons] at ih
        refine List.forall_mem_cons.mpr ⟨?_, ih.2⟩
        rw [List.mem_cons, not_or]
        exact ⟨Ne.symm other, ih.1⟩

namespace Pathname

variable {path : Pathname} {name : String}

theorem segmentsSome (path : Pathname) : path.segments ≠ [] := by
  simp [segments, splitSlashesSome]

theorem segmentsFree (path : Pathname) : ∀ s ∈ path.segments, '/' ∉ s.toList := by
  intro s member
  obtain ⟨part, inside, rfl⟩ := List.mem_map.mp member
  rw [String.toList_ofList]
  exact splitSlashesParts _ part inside

theorem joinSegments (base : Pathname) (free : '/' ∉ name.toList) :
    ∃ front, (base.join ⟨name⟩).segments = front ++ [name] := by
  have alone : splitSlashes name.toList = [name.toList] := splitSlashesFree free
  have relative : isAbsolute ⟨name⟩ = false := by
    rw [isAbsolute, beq_eq_false_iff_ne]
    exact fun head => free (List.mem_of_mem_head? head)
  rw [join, relative]
  simp only [Bool.false_eq_true, if_false]
  split
  · rename_i ended
    rw [Bool.or_eq_true] at ended
    rcases ended with empty | slash
    · have none : base.text = "" := by simpa [isEmpty] using empty
      exact ⟨[], by simp [segments, none, alone]⟩
    · obtain ⟨cs, whole⟩ := List.getLast?_eq_some_iff.mp (eq_of_beq slash)
      refine ⟨(splitSlashes cs).map String.ofList, ?_⟩
      simp [segments, whole, splitSlashesAppend, alone]
  · refine ⟨base.segments, ?_⟩
    simp [segments, splitSlashesAppend, alone]

theorem fileNameLast {front : List String} (whole : path.segments = front ++ [name])
    (noise : isNoise name = false) (down : name ≠ "..") : path.fileName? = some name := by
  have parts : ∃ first later, path.backwards = (first, later) ∧ later.headD first = name := by
    rw [backwards, whole]
    cases front with
    | nil => exact ⟨name, [], rfl, rfl⟩
    | cons first rest =>
      refine ⟨first, name :: rest.reverse, ?_, rfl⟩
      simp [noise]
  obtain ⟨first, later, split, rfl⟩ := parts
  simp only [fileName?, split, noise, beq_false_of_ne down, Bool.or_self, Bool.false_eq_true,
    if_false]

theorem fileNameMember (found : path.fileName? = some name) : name ∈ path.segments := by
  cases whole : path.segments with
  | nil => exact absurd whole path.segmentsSome
  | cons first rest =>
    simp only [fileName?, backwards, whole] at found
    split at found
    · contradiction
    · cases found
      cases later : rest.reverse.dropWhile isNoise with
      | nil => simp
      | cons last before =>
        have inside : last ∈ rest.reverse.dropWhile isNoise := by simp [later]
        have member := List.mem_reverse.mp ((List.dropWhile_sublist isNoise).mem inside)
        simp [member]

theorem relativeFirst (relative : path.isAbsolute = false) {rest : List String}
    (whole : path.segments = "" :: rest) : rest = [] := by
  rw [segments] at whole
  rw [isAbsolute] at relative
  cases cs : path.text.toList with
  | nil => simpa [cs, splitSlashes] using whole.symm
  | cons c cs' =>
    have other : c ≠ '/' := by simpa [cs] using relative
    rw [cs, splitSlashes, if_neg other] at whole
    split at whole <;> simp at whole

theorem ofSegmentsRelative {first : String} (some_ : first ≠ "") (free : '/' ∉ first.toList)
    (rest : List String) : (ofSegments (first :: rest)).isAbsolute = false := by
  have head : (ofSegments (first :: rest)).text.toList.head? = first.toList.head? := by
    cases letters : first.toList with
    | nil => exact absurd (String.toList_eq_nil_iff.mp letters) some_
    | cons c cs =>
      cases rest with
      | nil => simp [ofSegments, some_, letters]
      | cons second rest => simp [ofSegments, List.intercalate, letters]
  rw [isAbsolute, head, beq_eq_false_iff_ne]
  exact fun slash => free (List.mem_of_mem_head? slash)

theorem parentAbsolute {parent : Pathname} (found : path.parent? = some parent)
    (absolute : parent.isAbsolute = true) : path.isAbsolute = true := by
  by_contra relative
  rw [Bool.not_eq_true] at relative
  cases whole : path.segments with
  | nil => exact path.segmentsSome whole
  | cons first rest =>
    simp only [parent?, backwards, whole] at found
    split at found
    · rename_i start last before parts
      cases found
      have same : first = start := congrArg Prod.fst parts
      have named : first ≠ "" := by
        rintro rfl
        have none := relativeFirst relative whole
        simp [none] at parts
      rw [← same, ofSegmentsRelative named (path.segmentsFree first (by simp [whole]))] at absolute
      contradiction
    · split at found
      · contradiction
      · cases found
        exact absurd absolute (by decide)

/- How many segments name something. -/
def depth (path : Pathname) : Nat := path.segments.countP fun s => !isNoise s

theorem splitIntercalate {first : List Char} {rest : List (List Char)}
    (free : ∀ part ∈ first :: rest, '/' ∉ part) :
    splitSlashes (['/'].intercalate (first :: rest)) = first :: rest := by
  induction rest generalizing first with
  | nil => simpa [List.intercalate] using splitSlashesFree (free first (by simp))
  | cons second rest ih =>
    obtain ⟨here, later⟩ := List.forall_mem_cons.mp free
    have whole : ['/'].intercalate (first :: second :: rest) =
        first ++ '/' :: ['/'].intercalate (second :: rest) := by simp [List.intercalate]
    rw [whole, splitSlashesAppend, splitSlashesFree here, ih later]
    rfl

theorem segmentsOfSegments {first : String} {rest : List String}
    (free : ∀ s ∈ first :: rest, '/' ∉ s.toList) : (ofSegments (first :: rest)).segments =
      if first = "" ∧ rest = [] then ["", ""] else first :: rest := by
  unfold ofSegments
  split
  · rename_i root
    cases root
    decide
  · rename_i other
    rw [if_neg fun root => other (by rw [root.1, root.2])]
    have lists : ∀ part ∈ first.toList :: rest.map String.toList, '/' ∉ part := by
      simpa using free
    have slash : "/".toList = ['/'] := rfl
    rw [segments, String.toList_intercalate, List.map_cons, slash, splitIntercalate lists]
    simp

theorem absoluteFirst (absolute : path.isAbsolute = true) : ∃ rest, path.segments = "" :: rest := by
  obtain ⟨cs, text⟩ := List.head?_eq_some_iff.mp (eq_of_beq absolute)
  exact ⟨(splitSlashes cs).map String.ofList, by simp [segments, text, splitSlashes]⟩

/- One path stands above another: both start alike, and the way to it is no longer. -/
structure Above (upper lower : Pathname) : Prop where
  start : upper.isAbsolute = lower.isAbsolute
  depth : upper.depth ≤ lower.depth
  down : ".." ∉ lower.segments → ".." ∉ upper.segments

theorem Above.refl (path : Pathname) : Above path path := ⟨rfl, Nat.le_refl _, id⟩

theorem Above.trans {upper lower : Pathname} (first : Above upper path)
    (second : Above path lower) : Above upper lower :=
  ⟨first.start.trans second.start, Nat.le_trans first.depth second.depth, fun down =>
    first.down (second.down down)⟩

theorem parentSegments {parent : Pathname} (found : path.parent? = some parent)
    (some_ : parent.text ≠ "") : ∃ first rest kept last, path.segments = first :: rest ∧
      isNoise last = false ∧ (kept ++ [last]).Sublist rest ∧
      parent.segments = if first = "" ∧ kept = [] then ["", ""] else first :: kept := by
  cases whole : path.segments with
  | nil => exact absurd whole path.segmentsSome
  | cons first rest =>
    simp only [parent?, backwards, whole] at found
    split at found
    · rename_i start last before parts
      obtain ⟨rfl, named⟩ := Prod.mk.inj parts
      cases found
      have noise : isNoise last = false := by
        have head := List.head_dropWhile_not (p := isNoise) (l := rest.reverse)
        simpa [named] using head
      have kept : ((before.dropWhile isNoise).reverse ++ [last]).Sublist rest := by
        rw [← List.reverse_cons, ← List.reverse_reverse rest, List.reverse_sublist]
        refine (List.Sublist.cons_cons last (List.dropWhile_sublist isNoise)).trans ?_
        rw [← named]
        exact List.dropWhile_sublist isNoise
      have free : ∀ s ∈ first :: (before.dropWhile isNoise).reverse, '/' ∉ s.toList := by
        have front := List.Sublist.cons_cons first ((List.sublist_append_left _ _).trans kept)
        intro s member
        apply path.segmentsFree
        rw [whole]
        exact front.mem member
      exact ⟨first, rest, _, last, rfl, noise, kept, segmentsOfSegments free⟩
    · split at found
      · contradiction
      · cases found
        exact absurd rfl some_

theorem parentAbove {parent : Pathname} (found : path.parent? = some parent)
    (some_ : parent.text ≠ "") : Above parent path ∧ parent.depth < path.depth := by
  obtain ⟨first, rest, kept, last, whole, noise, inside, segments⟩ := parentSegments found some_
  have count : (kept ++ [last]).countP (fun s => !isNoise s) ≤ rest.countP (fun s => !isNoise s) :=
    inside.countP_le
  have fewer : parent.depth < path.depth := by
    rw [depth, depth, whole, segments]
    rw [List.countP_append, List.countP_singleton, noise] at count
    split
    · have none : ["", ""].countP (fun s => !isNoise s) = 0 := by decide
      rw [none, List.countP_cons]
      simp at count
      omega
    · simp at count
      simp only [List.countP_cons]
      omega
  refine ⟨⟨?_, Nat.le_of_lt fewer, ?_⟩, fewer⟩
  · rw [Bool.eq_iff_iff]
    refine ⟨parentAbsolute found, fun absolute => ?_⟩
    by_contra relative
    rw [Bool.not_eq_true] at relative
    obtain ⟨others, same⟩ := absoluteFirst absolute
    rw [whole] at same
    cases same
    split at segments
    · exact absurd (relativeFirst relative segments) (by simp)
    · rename_i other
      exact other ⟨rfl, relativeFirst relative segments⟩
  · have front := List.Sublist.cons_cons first ((List.sublist_append_left _ _).trans inside)
    intro down up
    rw [whole] at down
    rw [segments] at up
    split at up
    · exact absurd up (by decide)
    · exact down (front.mem up)

theorem ancestorAbove {ancestor : Pathname} (member : ancestor ∈ path.ancestors)
    (some_ : ancestor.text ≠ "") : Above ancestor path := by
  have empty : ∀ bound, ancestorsWithin bound ⟨""⟩ = [⟨""⟩] := by
    intro bound
    cases bound <;> rfl
  have within : ∀ bound (path : Pathname), ancestor ∈ ancestorsWithin bound path →
      Above ancestor path := by
    intro bound
    induction bound with
    | zero =>
      intro path member
      rw [List.mem_singleton.mp member]
      exact .refl path
    | succ bound ih =>
      intro path member
      rw [ancestorsWithin] at member
      split at member
      · rename_i parent found
        rcases List.mem_cons.mp member with rfl | higher
        · exact .refl ancestor
        · have named : parent.text ≠ "" := by
            intro none
            have same : parent = ⟨""⟩ := by rw [← none]
            rw [same, empty] at higher
            rw [List.mem_singleton.mp higher] at some_
            exact some_ rfl
          exact (ih parent higher).trans (parentAbove found named).1
      · rw [List.mem_singleton.mp member]
        exact .refl path
  exact within _ path member

/- The directories that a target lies in, as its path names them. -/
def chain (target : Pathname) : List Pathname :=
  match target.parent? with
  | some parent => parent.ancestors
  | none => []

theorem chainAbove {target : Pathname} (member : path ∈ target.chain) (some_ : path.text ≠ "") :
    Above path target ∧ path.depth < target.depth := by
  unfold chain at member
  split at member
  · rename_i parent found
    have above := ancestorAbove member some_
    have named : parent.text ≠ "" := by
      intro none
      have same : parent = ⟨""⟩ := by rw [← none]
      rw [same, show ancestors ⟨""⟩ = [⟨""⟩] from rfl] at member
      exact some_ (by rw [List.mem_singleton.mp member])
    obtain ⟨first, fewer⟩ := parentAbove found named
    exact ⟨above.trans first, Nat.lt_of_le_of_lt above.depth fewer⟩
  · contradiction

end Pathname

theorem scratchNameFree {stem : String} (free : '/' ∉ stem.toList) (attempt : Nat) :
    '/' ∉ (scratchName stem attempt).toList := by
  have number : '/' ∉ Decimal.digits attempt := fun slash =>
    absurd (Decimal.digitsAreDigits attempt '/' slash) (by decide)
  simp [scratchName, Decimal.text, free, number]

theorem scratchNameLonger (stem : String) (attempt : Nat) : scratchName stem attempt ≠ stem := by
  intro same
  have lengths := congrArg String.length same
  simp only [scratchName, String.length_append] at lengths
  have dot : ".".length = 1 := rfl
  omega

end DoubleDispatch.Storage
