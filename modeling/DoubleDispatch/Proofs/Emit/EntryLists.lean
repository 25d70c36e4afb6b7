import DoubleDispatch.Proofs.Emit.Entries
import DoubleDispatch.Proofs.Text.Calls

/-! All entry points that the dispatch table declares or defines. No class and no function is looked
into here: of all lines of a text those count that have the name of an entry point in front of their
first bracket, so that none can stand anywhere else. -/
namespace DoubleDispatch.Emit
open Catalog (Category Operation Operations Terminals)
open Template (Fragment Line Kind region)
open Template.Fragment (textsLined)
open Text (identifierPart span spanAppend stopsAt called? calledAfter calledNone Indented
  definedRun)

def isRun (line : String) : Bool := called? line == some "run"

/- A definition stands at the margin; a call is indented. -/
def definesRun (line : String) : Bool := isRun line && line.toList.head? != some ' '

/- The class that a member is defined for, and the types of its operands. -/
def definition? (line : String) : Option (String × List String) :=
  let owner := (span identifierPart line).1
  ((definedRun owner).types? line).map fun types => (owner, types)

theorem isRunAfter {front : String} (opens : '(' ∈ front.toList) (rest : String) :
    isRun (front ++ rest) = isRun front := by
  rw [isRun, calledAfter opens, isRun]

theorem noRunOf {line : String} (plain : '(' ∉ line.toList) : isRun line = false := by
  rw [isRun, calledNone plain]
  rfl

theorem isRunEntry (overload : Overload) : isRun overload.entry = true := by
  cases overload with
  | unary operand => exact (isRunAfter (by decide) _).trans rfl
  | binary left right => exact (isRunAfter (by decide) _).trans rfl

theorem isRunDefault (overload : Overload) : isRun (defaultHead overload) = true := by
  cases overload with
  | unary operand => exact (isRunAfter (by decide) _).trans rfl
  | binary left right => exact (isRunAfter (by decide) _).trans rfl

theorem evalNoRun (arity : Category.Arity) : isRun (evalDeclared arity) = false :=
  (isRunAfter (by decide) _).trans rfl

theorem evalTitleNoRun (arity : Category.Arity) : isRun (evalTitle arity) = false := by
  cases arity with
  | one => rfl
  | two => exact (isRunAfter (by decide) _).trans rfl

/- Parts of identifiers hold no bracket. -/
theorem noBracket {front name back : String} (parts : ∀ c ∈ name.toList, identifierPart c = true)
    (before : '(' ∉ front.toList) (behind : '(' ∉ back.toList) :
    '(' ∉ (front ++ (name ++ back)).toList := by
  simp only [String.toList_append, List.mem_append, not_or]
  exact ⟨before, fun inside => absurd (parts _ inside) (by decide), behind⟩

theorem memberNoRun (op : Operation) : isRun (runnerMemberLine op) = false := by
  have parts := Text.identifierParts op.name.valid
  exact noRunOf (noBracket parts (by decide) (noBracket parts (by decide) (by decide)))

theorem declaredParts (ops : Operations) (terminals : Terminals) :
    ∀ name ∈ declaredNames ops terminals, ∀ c ∈ name.toList, identifierPart c = true := by
  simp only [declaredNames, List.forall_mem_append, List.forall_mem_map]
  exact ⟨fun t _ => t.typeNameParts, fun op _ => Text.identifierParts op.runner.valid⟩

theorem filterNone {p : String → Bool} {ls : List String} (none : ∀ l ∈ ls, p l = false) :
    ls.filter p = [] :=
  List.filter_eq_nil_iff.mpr fun l member => by simp [none l member]

theorem regionFilter {p : String → Bool} {f : Fragment} {head : Line} {inner : List Line}
    {title last : String} (titled : f.lineOf head = [title]) (noTitle : p title = false)
    (noBrace : p r"{" = false) (noLast : p last = false) :
    (f.linesOf (region head inner last)).filter p = (f.linesOf inner).filter p := by
  rw [f.regionLines inner titled, List.filter_cons_of_neg (by simp [noTitle]),
    List.filter_cons_of_neg (by simp [noBrace]), List.filter_append,
    filterNone (List.forall_mem_singleton.mpr noLast), List.append_nil]

theorem fixedFilter {p : String → Bool} (f : Fragment) {ls : List Line}
    (plain : ls.all (Line.plainly (fun line => !p line)) = true) : (f.linesOf ls).filter p = [] :=
  filterNone fun l member => by simpa using f.plainLines plain l member

section
variable (ops : Operations) (terminals : Terminals) (names : Names)

theorem forwardNoRun : ((dispatchHeaderPage ops terminals names).linesOf
    [.block "forward_decls"]).filter isRun = [] := by
  rw [forwardLines]
  exact filterNone (List.forall_mem_map.mpr fun name member =>
    noRunOf (noBracket (declaredParts ops terminals name member) (by decide) (by decide)))

theorem baseMembersRun (arity : Category.Arity) : (baseText terminals arity).members.filter isRun =
    (everyOverload terminals arity).map Overload.entry := by
  have fixed : ∀ l ∈ ["  public:", destructor arity, evalDeclared arity], isRun l = false := by
    simp only [List.forall_mem_cons]
    exact ⟨rfl, by cases arity <;> rfl, evalNoRun arity, List.forall_mem_nil _⟩
  have entries : ((everyOverload terminals arity).map Overload.entry).filter isRun =
      (everyOverload terminals arity).map Overload.entry :=
    List.filter_eq_self.mpr (List.forall_mem_map.mpr fun overload _ => isRunEntry overload)
  have members : (baseText terminals arity).members =
      ["  public:", destructor arity, evalDeclared arity] ++
        (everyOverload terminals arity).map Overload.entry := rfl
  rw [members, List.filter_append, filterNone fixed, entries, List.nil_append]

theorem dispatcherNoRun : (dispatcherText ops).members.filter isRun = [] := by
  refine filterNone ?_
  simp only [dispatcherText, List.forall_mem_cons, List.forall_mem_map]
  exact ⟨rfl, rfl, rfl, rfl, rfl, fun op _ => memberNoRun op⟩

theorem headerRuns :
    ((dispatchHeaderPage ops terminals names).linesOf (Kind.body .dispatchHeader)).filter isRun =
      (everyOverload terminals .one ++ everyOverload terminals .two).map Overload.entry := by
  have fixed : ∀ ls : List Line, ls.all (Line.plainly (fun line => !isRun line)) = true →
      ((dispatchHeaderPage ops terminals names).linesOf ls).filter isRun = [] :=
    fun _ => fixedFilter _
  have unary : ((dispatchHeaderPage ops terminals names).linesOf unaryBaseRegion).filter isRun =
      (everyOverload terminals .one).map Overload.entry := by
    rw [unaryBaseRegion, regionFilter (Fragment.lineOfPlain _ _) rfl rfl rfl, unaryBaseMembers,
      baseMembersRun]
  have binary : ((dispatchHeaderPage ops terminals names).linesOf binaryBaseRegion).filter isRun =
      (everyOverload terminals .two).map Overload.entry := by
    rw [binaryBaseRegion, regionFilter (Fragment.lineOfPlain _ _) rfl rfl rfl, binaryBaseMembers,
      baseMembersRun]
  have dispatcher : ((dispatchHeaderPage ops terminals names).linesOf
      dispatcherRegion).filter isRun = [] := by
    rw [dispatcherRegion, regionFilter (Fragment.lineOfPlain _ _) rfl rfl rfl, dispatcherMembers,
      dispatcherNoRun]
  have front := fixed ((Kind.body .dispatchHeader).take 4) (by decide)
  have first := fixed (((Kind.body .dispatchHeader).drop 5).take 5) (by decide)
  have second := fixed (((Kind.body .dispatchHeader).drop 17).take 4) (by decide)
  have third := fixed (((Kind.body .dispatchHeader).drop 28).take 4) (by decide)
  have last := fixed [.blank] (by decide)
  rw [dispatchHeaderBody]
  simp only [Fragment.linesOfAppend, List.filter_append, front, forwardNoRun, first, unary, second,
    binary, third, dispatcher, last, List.nil_append, List.append_nil, List.map_append]

/- The lines of the definition of an entry point, as the source has them. -/
def defaultLines (overload : Overload) : List String :=
  ["void *", defaultHead overload, r"{", thrownLine overload, r"}", ""]

theorem indentedNoDefinition {line : String} (indented : Indented line) :
    definesRun line = false := by
  rw [definesRun, indented, bne_self_eq_false, Bool.and_false]

theorem defaultDefinition (overload : Overload) :
    (defaultLines overload).filter definesRun = [defaultHead overload] := by
  have margin : (defaultHead overload).toList.head? = some 'D' := by
    cases overload <;> exact Text.startsWith _ _ _
  have defined : definesRun (defaultHead overload) = true := by
    rw [definesRun, isRunDefault, margin]
    rfl
  have thrown : definesRun (thrownLine overload) = false :=
    indentedNoDefinition (thrownIndented overload)
  have none : ∀ line ∈ ["void *", r"{", r"}", ""], definesRun line = false := by decide
  simp only [List.forall_mem_cons] at none
  simp [defaultLines, defined, thrown, none]

theorem defaultDefined (overload : Overload) :
    definition? (defaultHead overload) = some (runnerBase overload.arity, overload.types) := by
  have owner : ∀ (arity : Category.Arity) (rest : String),
      span identifierPart (runnerBase arity ++ ("::run(RegContainer*, const " ++ rest)) =
        (runnerBase arity, "::run(RegContainer*, const " ++ rest) := by
    intro arity rest
    have parts : (runnerBase arity).toList.all identifierPart = true := by cases arity <;> decide
    exact spanAppend (List.all_eq_true.mp parts) (stopsAt rfl _ _)
  have whole : ∃ rest, defaultHead overload =
      runnerBase overload.arity ++ ("::run(RegContainer*, const " ++ rest) := by
    cases overload with
    | unary operand =>
      have parts : "DispatchVoidUnaryOp::run(RegContainer*, const " =
          "DispatchVoidUnaryOp" ++ "::run(RegContainer*, const " := by decide
      exact ⟨_, (congrArg (· ++ _) parts).trans String.append_assoc⟩
    | binary left right =>
      have parts : "DispatchVoidBinaryOp::run(RegContainer*, const " =
          "DispatchVoidBinaryOp" ++ "::run(RegContainer*, const " := by decide
      exact ⟨_, (congrArg (· ++ _) parts).trans String.append_assoc⟩
  obtain ⟨rest, whole⟩ := whole
  have types := defaultTypes overload
  rw [whole] at types ⊢
  rw [definition?, owner, types]
  rfl

theorem unaryDefaultLines : (dispatchSourcePage ops terminals names).linesOf
    [.block "unary_defaults"] = (everyOverload terminals .one).flatMap defaultLines := by
  have rendered : ∀ t, (unaryDefault t).rendered = defaultLines (.unary t) :=
    fun _ => Fragment.renderedSpelled _
  rw [everyOverload, List.flatMap_map]
  refine (Fragment.linesOfSingle _ _).trans ((textsLined (unaryDefaultsLined terminals)).2.trans
    ((List.flatMap_map ..).trans ?_))
  exact congrArg terminals.entries.flatMap (funext rendered)

theorem binaryDefaultLines : (dispatchSourcePage ops terminals names).linesOf
    [.block "binary_defaults"] = (everyOverload terminals .two).flatMap defaultLines := by
  have rendered : ∀ pair, (binaryDefault pair).rendered = defaultLines (.binary pair.1 pair.2) :=
    fun _ => Fragment.renderedSpelled _
  rw [everyOverload, List.flatMap_map]
  refine (Fragment.linesOfSingle _ _).trans ((textsLined (binaryDefaultsLined terminals)).2.trans
    ((List.flatMap_map ..).trans ?_))
  exact congrArg (terminalPairs terminals).flatMap (funext rendered)

theorem functionNoDefinition {head : Line} {inner : List Line} {title : String}
    (titled : (dispatchSourcePage ops terminals names).lineOf head = [title])
    (noTitle : isRun title = false)
    (indented : ∀ x ∈ (dispatchSourcePage ops terminals names).linesOf inner, Indented x) :
    ((dispatchSourcePage ops terminals names).linesOf
      (region head inner r"}")).filter definesRun = [] := by
  have title_ : definesRun title = false := by
    rw [definesRun, noTitle]
    rfl
  rw [regionFilter titled title_ rfl rfl]
  exact filterNone fun l member => indentedNoDefinition (indented l member)

theorem sourceDefinitions : ((dispatchSourcePage ops terminals names).linesOf
    (Kind.body .dispatchSource)).filter definesRun =
      (everyOverload terminals .one ++ everyOverload terminals .two).map defaultHead := by
  have fixed : ∀ ls : List Line, ls.all (Line.plainly (fun line => !definesRun line)) = true →
      ((dispatchSourcePage ops terminals names).linesOf ls).filter definesRun = [] :=
    fun _ => fixedFilter _
  have unaryEval : ((dispatchSourcePage ops terminals names).linesOf
      unaryEvalRegion).filter definesRun = [] :=
    functionNoDefinition _ _ _ (Fragment.lineOfPlain _ (evalTitle .one)) (evalTitleNoRun .one)
      (unaryEvalIndented ops terminals names)
  have binaryEval : ((dispatchSourcePage ops terminals names).linesOf
      binaryEvalRegion).filter definesRun = [] :=
    functionNoDefinition _ _ _ (Fragment.lineSpelled _ _ :
        (dispatchSourcePage ops terminals names).lineOf (evalHead .two) = [evalTitle .two])
      (evalTitleNoRun .two) (binaryEvalIndented ops terminals names)
  have constructor : ((dispatchSourcePage ops terminals names).linesOf
      constructorRegion).filter definesRun = [] :=
    functionNoDefinition _ _ _ (Fragment.lineOfPlain _ "Dispatcher::Dispatcher()") rfl
      (constructorIndented ops terminals names)
  have destructor : ((dispatchSourcePage ops terminals names).linesOf
      destructorRegion).filter definesRun = [] :=
    functionNoDefinition _ _ _ (Fragment.lineOfPlain _ "Dispatcher::~Dispatcher()") rfl
      (destructorBodyIndented ops terminals names)
  have dispatch : ((dispatchSourcePage ops terminals names).linesOf
      dispatchRegion).filter definesRun = [] :=
    functionNoDefinition _ _ _
      (Fragment.lineOfPlain _ "Dispatcher::dispatch(const OGExpr* thing) const") rfl
      (dispatchIndented ops terminals names)
  have defaults : ∀ overloads : List Overload, (overloads.flatMap defaultLines).filter definesRun =
      overloads.map defaultHead := by
    intro overloads
    rw [List.filter_flatMap, List.map_eq_flatMap]
    exact congrArg overloads.flatMap (funext defaultDefinition)
  have front := fixed ((Kind.body .dispatchSource).take 4) (by decide)
  have blank := fixed [.blank] (by decide)
  have between := fixed (((Kind.body .dispatchSource).drop 15).take 3) (by decide)
  have before := fixed (((Kind.body .dispatchSource).drop 38).take 2) (by decide)
  rw [dispatchSourceBody]
  simp only [Fragment.linesOfAppend, List.filter_append, front, unaryEval, blank,
    unaryDefaultLines, between, binaryEval, binaryDefaultLines, defaults, constructor, destructor,
    before, dispatch, List.nil_append, List.append_nil, List.map_append]

end
end DoubleDispatch.Emit
