import DoubleDispatch.Proofs.Emit.Dispatch
import DoubleDispatch.Proofs.Emit.RunnerTexts

/-! The dispatch table, read back: the two base classes with all their entry points, and the
definitions of these, every one of which throws. -/
namespace DoubleDispatch.Emit
open Catalog (Category Operation Operations Terminal Terminals)
open Template (Fragment Line Kind pageLines? region)
open Template.Fragment (linedSlots textsLined renderedEach)
open Text (identifierPart blocks Holds Indented indentedChars holdsLines startsNot ClassText
  readClass readBareClass)

/- The overloads that a base class has entry points for. -/
def everyOverload (terminals : Terminals) : Category.Arity → List Overload
  | .one => terminals.entries.map .unary
  | .two => (terminalPairs terminals).map fun pair => .binary pair.1 pair.2

def destructor : Category.Arity → String
  | .one => "    virtual ~DispatchVoidUnaryOp();"
  | .two => "    virtual ~DispatchVoidBinaryOp();"

def baseText (terminals : Terminals) (arity : Category.Arity) : ClassText :=
  ⟨runnerBase arity, none, "  public:" :: destructor arity :: evalDeclared arity ::
    (everyOverload terminals arity).map Overload.entry⟩

def runnerMemberLine (op : Operation) : String :=
  "    const " ++ (op.name.text ++ ("Runner* _" ++ (op.name.text ++ "Runner;")))

def dispatcherText (ops : Operations) : ClassText :=
  ⟨"Dispatcher", none, "  public:" :: "    Dispatcher();" :: "    ~Dispatcher();" ::
    "    void dispatch(const OGExpr* thing) const;" :: "  private:" ::
    ops.entries.map runnerMemberLine⟩

theorem Overload.entryIndented (overload : Overload) : Indented overload.entry := by
  cases overload with
  | unary operand => exact (indentedChars _).append _
  | binary left right => exact (indentedChars _).append _

theorem destructorIndented (arity : Category.Arity) : Indented (destructor arity) := by
  cases arity <;> exact indentedChars _

theorem baseIndented (terminals : Terminals) (arity : Category.Arity) :
    ∀ l ∈ (baseText terminals arity).members, Indented l := by
  simp only [baseText, List.forall_mem_cons, List.forall_mem_map]
  refine ⟨indentedChars _, destructorIndented arity, ?_, fun overload _ => overload.entryIndented⟩
  exact (indentedChars _).append _

theorem dispatcherIndented (ops : Operations) : ∀ l ∈ (dispatcherText ops).members, Indented l := by
  simp only [dispatcherText, List.forall_mem_cons, List.forall_mem_map]
  refine ⟨indentedChars _, indentedChars _, indentedChars _, indentedChars _, indentedChars _, ?_⟩
  intro op _
  exact (indentedChars _).append _

section
variable (ops : Operations) (terminals : Terminals) (names : Names)

theorem declarationsLined :
    ∀ f ∈ (declaredNames ops terminals).map forwardDeclaration, f.Lined := by
  simp only [declaredNames, List.map_append, List.forall_mem_append, List.forall_mem_map]
  exact
    ⟨fun t _ => linedSlots rfl rfl (by
       simp [forwardDeclaration, Fragment.set, Fragment.of, Terminal.typeNameSingle]),
     fun op _ => linedSlots rfl rfl (by
       simpa [forwardDeclaration, Fragment.set, Fragment.of, Operation.runnerName] using
         op.runner.single)⟩

theorem unaryEntriesLined : ∀ f ∈ terminals.entries.map dispatchUnaryEntry, f.Lined :=
  List.forall_mem_map.mpr fun t _ => linedSlots rfl rfl (by
    simp [dispatchUnaryEntry, Fragment.set, Fragment.of, Terminal.typeNameSingle])

theorem binaryEntriesLined : ∀ f ∈ (terminalPairs terminals).map dispatchBinaryEntry, f.Lined :=
  List.forall_mem_map.mpr fun pair _ => linedSlots rfl rfl (by
    simp [dispatchBinaryEntry, Fragment.set, Fragment.of, Terminal.typeNameSingle])

theorem runnerMembersLined : ∀ f ∈ ops.entries.map runnerMember, f.Lined :=
  List.forall_mem_map.mpr fun op _ => linedSlots rfl rfl (by
    simp [runnerMember, Fragment.set, Fragment.of, op.name.single])

theorem dispatchHeaderTidy : (dispatchHeaderPage ops terminals names).Tidy :=
  (((((Fragment.tidyOf .dispatchHeader).setOption rfl).setBlock
    (by decide : "forward_decls" ∈ Kind.blocks .dispatchHeader)
    (textsLined (declarationsLined ops terminals)).1).setBlock
    (by decide : "unary_entry_points" ∈ Kind.blocks .dispatchHeader)
    (textsLined (unaryEntriesLined terminals)).1).setBlock
    (by decide : "binary_entry_points" ∈ Kind.blocks .dispatchHeader)
    (textsLined (binaryEntriesLined terminals)).1).setBlock
    (by decide : "runner_members" ∈ Kind.blocks .dispatchHeader)
    (textsLined (runnerMembersLined ops)).1

end

def unaryBaseLines : List Line :=
  [.plain "  public:", .plain "    virtual ~DispatchVoidUnaryOp();",
   .plain "    virtual void * eval(RegContainer* reg, const OGTerminal* arg) const;",
   .block "unary_entry_points"]

def binaryBaseLines : List Line :=
  [.plain "  public:", .plain "    virtual ~DispatchVoidBinaryOp();",
   .ended [.text "    virtual void * eval(",
     .text "RegContainer* reg, const OGTerminal* arg0, const OGTerminal* arg1", .text ") const;"],
   .block "binary_entry_points"]

def dispatcherLines : List Line :=
  [.plain "  public:", .plain "    Dispatcher();", .plain "    ~Dispatcher();",
   .plain "    void dispatch(const OGExpr* thing) const;", .plain "  private:",
   .block "runner_members"]

def unaryBaseRegion : List Line :=
  region (.plain "class DispatchVoidUnaryOp") unaryBaseLines r"};"

def binaryBaseRegion : List Line :=
  region (.plain "class DispatchVoidBinaryOp") binaryBaseLines r"};"

def dispatcherRegion : List Line := region (.plain "class Dispatcher") dispatcherLines r"};"

theorem dispatchHeaderBody : Kind.body .dispatchHeader =
    (Kind.body .dispatchHeader).take 4 ++ ([Line.block "forward_decls"] ++
      (((Kind.body .dispatchHeader).drop 5).take 5 ++ (unaryBaseRegion ++
        (((Kind.body .dispatchHeader).drop 17).take 4 ++ (binaryBaseRegion ++
          (((Kind.body .dispatchHeader).drop 28).take 4 ++
            (dispatcherRegion ++ [Line.blank]))))))) := by
  rfl

section
variable (ops : Operations) (terminals : Terminals) (names : Names)

theorem unaryEntryRendered (t : Terminal) :
    (dispatchUnaryEntry t).rendered = [(Overload.unary t).entry] :=
  Fragment.renderedSpelled _

theorem binaryEntryRendered (pair : Terminal × Terminal) :
    (dispatchBinaryEntry pair).rendered = [(Overload.binary pair.1 pair.2).entry] :=
  Fragment.renderedSpelled _

theorem unaryEntryLines : (dispatchHeaderPage ops terminals names).lineOf
    (.block "unary_entry_points") = (everyOverload terminals .one).map Overload.entry := by
  rw [everyOverload, List.map_map]
  exact (textsLined (unaryEntriesLined terminals)).2.trans (renderedEach unaryEntryRendered)

theorem binaryEntryLines : (dispatchHeaderPage ops terminals names).lineOf
    (.block "binary_entry_points") = (everyOverload terminals .two).map Overload.entry := by
  rw [everyOverload, List.map_map]
  exact (textsLined (binaryEntriesLined terminals)).2.trans (renderedEach binaryEntryRendered)

theorem runnerMemberLines : (dispatchHeaderPage ops terminals names).lineOf
    (.block "runner_members") = ops.entries.map runnerMemberLine := by
  have rendered : ∀ op, (runnerMember op).rendered = [runnerMemberLine op] :=
    fun _ => Fragment.renderedSpelled _
  exact (textsLined (runnerMembersLined ops)).2.trans (renderedEach rendered)

theorem unaryBaseMembers : (dispatchHeaderPage ops terminals names).linesOf unaryBaseLines =
    (baseText terminals .one).members := by
  have eval : evalDeclared .one =
      "    virtual void * eval(RegContainer* reg, const OGTerminal* arg) const;" := by decide
  rw [unaryBaseLines, Fragment.linesOfCons, Fragment.linesOfCons, Fragment.linesOfCons,
    Fragment.linesOfSingle, unaryEntryLines, baseText, eval]
  rfl

theorem unaryBaseHolds : Holds ((dispatchHeaderPage ops terminals names).linesOf unaryBaseRegion)
    [⟨"class DispatchVoidUnaryOp", (baseText terminals .one).members⟩] :=
  Fragment.regionHolds _ (Fragment.lineOfPlain _ _) (by decide) (by decide)
    (unaryBaseMembers ops terminals names) (baseIndented terminals .one)

theorem binaryBaseMembers : (dispatchHeaderPage ops terminals names).linesOf binaryBaseLines =
    (baseText terminals .two).members := by
  have eval : (dispatchHeaderPage ops terminals names).lineOf (.ended
      [.text "    virtual void * eval(",
       .text "RegContainer* reg, const OGTerminal* arg0, const OGTerminal* arg1",
       .text ") const;"]) = [evalDeclared .two] := Fragment.lineSpelled _ _
  rw [binaryBaseLines, Fragment.linesOfCons, Fragment.linesOfCons, Fragment.linesOfCons,
    Fragment.linesOfSingle, binaryEntryLines, eval]
  rfl

theorem binaryBaseHolds : Holds ((dispatchHeaderPage ops terminals names).linesOf binaryBaseRegion)
    [⟨"class DispatchVoidBinaryOp", (baseText terminals .two).members⟩] :=
  Fragment.regionHolds _ (Fragment.lineOfPlain _ _) (by decide) (by decide)
    (binaryBaseMembers ops terminals names) (baseIndented terminals .two)

theorem dispatcherMembers : (dispatchHeaderPage ops terminals names).linesOf dispatcherLines =
    (dispatcherText ops).members := by
  rw [dispatcherLines, Fragment.linesOfCons, Fragment.linesOfCons, Fragment.linesOfCons,
    Fragment.linesOfCons, Fragment.linesOfCons, Fragment.linesOfSingle, runnerMemberLines]
  rfl

theorem dispatcherHolds : Holds ((dispatchHeaderPage ops terminals names).linesOf dispatcherRegion)
    [⟨"class Dispatcher", (dispatcherText ops).members⟩] :=
  Fragment.regionHolds _ (Fragment.lineOfPlain _ _) (by decide) (by decide)
    (dispatcherMembers ops terminals names) (dispatcherIndented ops)

theorem forwardLines : (dispatchHeaderPage ops terminals names).linesOf [.block "forward_decls"] =
    (declaredNames ops terminals).map fun name => "class " ++ (name ++ ";") := by
  have rendered : ∀ name, (forwardDeclaration name).rendered = ["class " ++ (name ++ ";")] :=
    fun _ => Fragment.renderedSpelled _
  exact (Fragment.linesOfSingle _ _).trans
    ((textsLined (declarationsLined ops terminals)).2.trans (renderedEach rendered))

theorem forwardHolds : Holds ((dispatchHeaderPage ops terminals names).linesOf
    [.block "forward_decls"]) [] := by
  rw [forwardLines]
  exact holdsLines (List.forall_mem_map.mpr fun name _ => startsNot (by decide) _ _)

theorem dispatchHeaderBlocks :
    blocks ((dispatchHeaderPage ops terminals names).linesOf (Kind.body .dispatchHeader)) =
      [⟨"class DispatchVoidUnaryOp", (baseText terminals .one).members⟩,
       ⟨"class DispatchVoidBinaryOp", (baseText terminals .two).members⟩,
       ⟨"class Dispatcher", (dispatcherText ops).members⟩] := by
  have margin : ∀ ls : List Line, ls.all (Line.avoids r"{") = true →
      Holds ((dispatchHeaderPage ops terminals names).linesOf ls) [] :=
    fun ls => Fragment.marginHolds _
  have front := margin ((Kind.body .dispatchHeader).take 4) (by decide)
  have first := margin (((Kind.body .dispatchHeader).drop 5).take 5) (by decide)
  have second := margin (((Kind.body .dispatchHeader).drop 17).take 4) (by decide)
  have third := margin (((Kind.body .dispatchHeader).drop 28).take 4) (by decide)
  have last := margin [.blank] (by decide)
  have whole := front.append ((forwardHolds ops terminals names).append (first.append
    ((unaryBaseHolds ops terminals names).append (second.append
      ((binaryBaseHolds ops terminals names).append (third.append
        ((dispatcherHolds ops terminals names).append last)))))))
  simp only [← Fragment.linesOfAppend] at whole
  rw [dispatchHeaderBody]
  exact whole.blocks

theorem readBases :
    readClasses .dispatchHeader names (dispatchHeaderPage ops terminals names).text = some
      [baseText terminals .one, baseText terminals .two, dispatcherText ops] := by
  have page : pageLines? .dispatchHeader [("namespace", names.namespaceName)]
      (dispatchHeaderPage ops terminals names).text =
      some ((dispatchHeaderPage ops terminals names).linesOf (Kind.body .dispatchHeader)) :=
    (dispatchHeaderTidy ops terminals names).sourceLines rfl
      (by decide : Kind.isSource .dispatchHeader = true) rfl
  have bare : ∀ (name head : String) (members : List String), "class " ++ name = head →
      name.toList.all identifierPart = true →
      readClass ⟨head, members⟩ = some ⟨name, none, members⟩ := by
    rintro name _ members rfl parts
    exact readBareClass (List.all_eq_true.mp parts) members
  simp only [readClasses, page, Option.bind_eq_bind, Option.bind_some, dispatchHeaderBlocks,
    List.mapM_cons, List.mapM_nil,
    bare "DispatchVoidUnaryOp" "class DispatchVoidUnaryOp" _ (by decide) (by decide),
    bare "DispatchVoidBinaryOp" "class DispatchVoidBinaryOp" _ (by decide) (by decide),
    bare "Dispatcher" "class Dispatcher" _ (by decide) (by decide)]
  rfl

end
end DoubleDispatch.Emit
