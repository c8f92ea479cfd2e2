import ConstructorAction.Proofs.Synthesis.FreshNames
import ConstructorAction.Proofs.Synthesis.Naming
import ConstructorAction.Synthesis.Constructor
import Mathlib.Logic.Function.Basic

namespace ConstructorAction.Synthesis

open ConstructorAction.Settings ConstructorAction.Source ConstructorAction.Text

/-!
What a constructor does when it is called. The names in its assignments stand for parameters and
members by the rules of C#, and the assignments are carried out one after the other. Every member
ends up with its own argument exactly if no member that is written bare has the name of a parameter
(`initialises_iff`). Only a name with two underscores in front makes such a parameter
(`initialises_of_single_underscores`).
-/

/-- What a name may stand for inside a constructor. -/
inductive Place where
  | parameter (name : String)
  | member (name : String)
  deriving DecidableEq, Repr

/-- A bare name is the parameter of that name if there is one, and else the member. -/
def bareName (parameters : List String) (name : String) : Place :=
  if name ∈ parameters then .parameter name else .member name

def Target.place (parameters : List String) : Target → Place
  | .qualified name => .member name
  | .bare name => bareName parameters name

section Calls

variable {α : Type}

/-- Stores the value of the right side at the left side. -/
def Assignment.run (parameters : List String) (values : Place → α) (assignment : Assignment) :
    Place → α :=
  Function.update values (assignment.target.place parameters)
    (values (bareName parameters assignment.parameter))

def bindArguments (before : Place → α) : List String → List α → Place → α
  | name :: names, argument :: arguments =>
      Function.update (bindArguments before names arguments) (.parameter name) argument
  | _, _ => before

/-- The values after a call: the arguments are bound, then the assignments run in order. -/
def Constructor.call (constructor : Constructor) (before : Place → α) (arguments : List α) :
    Place → α :=
  let names := constructor.parameters.map Parameter.name
  constructor.assignments.foldl (Assignment.run names) (bindArguments before names arguments)

theorem bindArguments_member (before : Place → α) (names : List String) (arguments : List α)
    (name : String) : bindArguments before names arguments (.member name) =
      before (.member name) := by
  induction names generalizing arguments with
  | nil => rfl
  | cons first names ih =>
      cases arguments with
      | nil => rfl
      | cons argument arguments =>
          rw [bindArguments, Function.update_of_ne (by simp), ih]

theorem bindArguments_parameter {before : Place → α} {names : List String} {arguments : List α}
    {place : Nat} {name : String} {argument : α} (distinct : names.Nodup)
    (named : names[place]? = some name) (given : arguments[place]? = some argument) :
    bindArguments before names arguments (.parameter name) = argument := by
  induction names generalizing arguments place with
  | nil => simp at named
  | cons first names ih =>
      cases arguments with
      | nil => simp at given
      | cons head arguments =>
          obtain ⟨fresh, later⟩ := List.nodup_cons.mp distinct
          cases place with
          | zero =>
              simp only [List.getElem?_cons_zero, Option.some.injEq] at named given
              subst named given
              exact Function.update_self ..
          | succ place =>
              simp only [List.getElem?_cons_succ] at named given
              have apart : Place.parameter name ≠ .parameter first := by
                rintro ⟨rfl⟩
                exact fresh (List.mem_of_getElem? named)
              rw [bindArguments, Function.update_of_ne apart]
              exact ih later named given

/-- A place that no assignment writes to keeps its value. -/
theorem foldl_run_of_ne {parameters : List String} {assignments : List Assignment} {place : Place}
    (untouched : ∀ assignment ∈ assignments, assignment.target.place parameters ≠ place)
    (values : Place → α) : assignments.foldl (Assignment.run parameters) values place =
      values place := by
  induction assignments generalizing values with
  | nil => rfl
  | cons assignment later ih =>
      obtain ⟨first, rest⟩ := List.forall_mem_cons.mp untouched
      rw [List.foldl_cons, ih rest, Assignment.run, Function.update_of_ne (Ne.symm first)]

/-- If every assignment writes to its own member, the members get the values that the parameters
had at the start: no parameter is written to, and no member twice. -/
theorem foldl_run_of_member {rule : AssignmentRule} {parameters : List String}
    {named : List (MemberDeclaration × String)}
    (distinct : (named.map fun pair => pair.1.name).Nodup)
    (targets : ∀ pair ∈ named, (targetOf rule pair.1).place parameters = .member pair.1.name)
    (sources : ∀ pair ∈ named, pair.2 ∈ parameters) (values : Place → α) :
    ∀ pair ∈ named,
      (named.map fun pair => assignmentOf rule pair.1 pair.2).foldl (Assignment.run parameters)
        values (.member pair.1.name) = values (.parameter pair.2) := by
  induction named generalizing values with
  | nil => simp
  | cons first later ih =>
      obtain ⟨fresh, laterDistinct⟩ := List.nodup_cons.mp distinct
      obtain ⟨target, laterTargets⟩ := List.forall_mem_cons.mp targets
      obtain ⟨source, laterSources⟩ := List.forall_mem_cons.mp sources
      let stored := Function.update values (.member first.1.name) (values (.parameter first.2))
      have step :
          Assignment.run parameters values (assignmentOf rule first.1 first.2) = stored := by
        simp [Assignment.run, assignmentOf, target, bareName, source, stored]
      intro pair member
      rw [List.map_cons, List.foldl_cons, step]
      rcases List.mem_cons.mp member with rfl | inLater
      · have untouched : ∀ assignment ∈
            later.map fun pair => assignmentOf rule pair.1 pair.2,
            assignment.target.place parameters ≠ .member pair.1.name := by
          intro assignment assigned
          obtain ⟨other, inLater, rfl⟩ := List.mem_map.mp assigned
          change (targetOf rule other.1).place parameters ≠ _
          rw [laterTargets other inLater]
          intro same
          exact fresh (List.mem_map.mpr ⟨other, inLater, Place.member.inj same⟩)
        rw [foldl_run_of_ne untouched]
        exact Function.update_self ..
      · rw [ih laterDistinct laterTargets laterSources stored pair inLater]
        exact Function.update_of_ne (by simp) ..

end Calls

theorem byLine_perm (members : List MemberDeclaration) : (byLine members).Perm members :=
  List.mergeSort_perm members _

theorem byLine_of_ordered {members : List MemberDeclaration}
    (ordered : members.Pairwise fun above below => above.line ≤ below.line) :
    byLine members = members :=
  List.mergeSort_of_pairwise (ordered.imp fun order => decide_eq_true order)

theorem mem_byLine {member : MemberDeclaration} {members : List MemberDeclaration} :
    member ∈ byLine members ↔ member ∈ members :=
  (byLine_perm members).mem_iff

theorem parameters_constructorOf (rule : AssignmentRule) (owner : TypeDeclaration)
    (members : List MemberDeclaration) :
    (constructorOf rule owner members).parameters.map Parameter.name =
      parameterNames (byLine members) := by
  have names : ((byLine members).zip (parameterNames (byLine members))).map Prod.snd =
      parameterNames (byLine members) :=
    List.map_snd_zip (by simp)
  simpa [constructorOf, parameterOf, Function.comp_def] using names

/-- After a call every member holds the argument at its own place in the list of parameters,
whatever it held before. -/
def Initialises (rule : AssignmentRule) (owner : TypeDeclaration)
    (members : List MemberDeclaration) : Prop :=
  ∀ (α : Type) (before : Place → α) (arguments : List α), arguments.length = members.length →
    ∀ (place : Nat) (member : MemberDeclaration) (argument : α),
      (byLine members)[place]? = some member → arguments[place]? = some argument →
        (constructorOf rule owner members).call before arguments (.member member.name) = argument

theorem targetOf_eq_bare_iff {rule : AssignmentRule} {member : MemberDeclaration} :
    targetOf rule member = .bare member.name ↔
      rule = .underscoreAware ∧ member.hasUnderscore = true := by
  cases rule <;> cases found : member.hasUnderscore <;> simp [targetOf, found]

theorem targetOf_cases (rule : AssignmentRule) (member : MemberDeclaration) :
    targetOf rule member = .qualified member.name ∨ targetOf rule member = .bare member.name := by
  cases rule <;> cases found : member.hasUnderscore <;> simp [targetOf, found]

/-- A member is written to unless it stands bare and a parameter has its name. -/
theorem place_targetOf_eq_member_iff {rule : AssignmentRule} {parameters : List String}
    {member : MemberDeclaration} :
    (targetOf rule member).place parameters = .member member.name ↔
      (rule = .underscoreAware → member.hasUnderscore = true → member.name ∉ parameters) := by
  rcases targetOf_cases rule member with qualified | bare
  · have inBody : ¬ (rule = .underscoreAware ∧ member.hasUnderscore = true) := by
      rw [← targetOf_eq_bare_iff, qualified]
      simp
    rw [qualified]
    exact iff_of_true rfl fun aware underscore => absurd ⟨aware, underscore⟩ inBody
  · obtain ⟨aware, underscore⟩ := targetOf_eq_bare_iff.mp bare
    rw [bare]
    by_cases captured : member.name ∈ parameters <;>
      simp [Target.place, bareName, captured, aware, underscore]

/-- An assignment writes to a parameter or to its own member. -/
theorem name_eq_of_place_targetOf {rule : AssignmentRule} {parameters : List String}
    {member : MemberDeclaration} {name : String}
    (written : (targetOf rule member).place parameters = .member name) : member.name = name := by
  rcases targetOf_cases rule member with form | form
  · rw [form] at written
    exact Place.member.inj written
  · rw [form, Target.place, bareName] at written
    split at written
    · cases written
    · exact Place.member.inj written

section Members

variable {rule : AssignmentRule} {owner : TypeDeclaration} {members : List MemberDeclaration}

theorem getElem?_zip_parameterNames {place : Nat} {member : MemberDeclaration}
    (found : (byLine members)[place]? = some member) :
    ∃ name, (parameterNames (byLine members))[place]? = some name ∧
      (member, name) ∈ (byLine members).zip (parameterNames (byLine members)) := by
  obtain ⟨inside, _⟩ := List.getElem?_eq_some_iff.mp found
  have named : place < (parameterNames (byLine members)).length := by simpa using inside
  refine ⟨_, List.getElem?_eq_getElem named, List.mem_of_getElem? (i := place) ?_⟩
  exact List.getElem?_zip_eq_some.mpr ⟨found, List.getElem?_eq_getElem named⟩

/-- Without a captured member every member gets its own argument. -/
theorem initialises_of_free (distinct : (members.map MemberDeclaration.name).Nodup)
    (free : ∀ member ∈ members, (targetOf rule member).place (parameterNames (byLine members)) =
      .member member.name) : Initialises rule owner members := by
  intro α before arguments complete place member argument found given
  let names := parameterNames (byLine members)
  let named := (byLine members).zip names
  obtain ⟨name, nameFound, paired⟩ := getElem?_zip_parameterNames found
  have first : named.map Prod.fst = byLine members := List.map_fst_zip (by simp [names])
  have ordered : (named.map fun pair => pair.1.name).Nodup := by
    have onNames : (named.map Prod.fst).map MemberDeclaration.name =
        named.map fun pair => pair.1.name := by simp
    rw [← onNames, first]
    exact (((byLine_perm members).map _).nodup_iff).mpr distinct
  have targets : ∀ pair ∈ named, (targetOf rule pair.1).place names = .member pair.1.name :=
    fun pair inNamed => free pair.1 (mem_byLine.mp (List.of_mem_zip inNamed).1)
  have sources : ∀ pair ∈ named, pair.2 ∈ names :=
    fun pair inNamed => (List.of_mem_zip inNamed).2
  rw [Constructor.call, parameters_constructorOf]
  calc _ = bindArguments before names arguments (.parameter name) :=
        foldl_run_of_member ordered targets sources _ (member, name) paired
    _ = argument := bindArguments_parameter (nodup_parameterNames _) nameFound given

/-- A captured member keeps the value from before the call. -/
theorem call_of_captured {α : Type} {member : MemberDeclaration}
    (distinct : (members.map MemberDeclaration.name).Nodup) (inMembers : member ∈ members)
    (captured : (targetOf rule member).place (parameterNames (byLine members)) ≠
      .member member.name) (before : Place → α) (arguments : List α) :
    (constructorOf rule owner members).call before arguments (.member member.name) =
      before (.member member.name) := by
  rw [Constructor.call, parameters_constructorOf, foldl_run_of_ne, bindArguments_member]
  intro assignment assigned
  obtain ⟨⟨other, name⟩, inNamed, rfl⟩ := List.mem_map.mp assigned
  intro written
  have inOthers : other ∈ members := mem_byLine.mp (List.of_mem_zip inNamed).1
  have same : other = member :=
    List.inj_on_of_nodup_map distinct inOthers inMembers (name_eq_of_place_targetOf written)
  exact captured (same ▸ written)

/-- A constructor initialises its members exactly if no member that is written bare has the name
of one of the parameters. -/
theorem initialises_iff (rule : AssignmentRule) (owner : TypeDeclaration)
    (members : List MemberDeclaration) (distinct : (members.map MemberDeclaration.name).Nodup) :
    Initialises rule owner members ↔
      (rule = .underscoreAware → ∀ member ∈ members, member.hasUnderscore = true →
        member.name ∉ parameterNames (byLine members)) := by
  constructor
  · intro initialised aware member inMembers underscore
    by_contra named
    have captured : (targetOf rule member).place (parameterNames (byLine members)) ≠
        .member member.name :=
      fun own => place_targetOf_eq_member_iff.mp own aware underscore named
    obtain ⟨place, found⟩ := List.mem_iff_getElem?.mp (mem_byLine.mpr inMembers)
    have inside : place < members.length := by
      simpa using (List.getElem?_eq_some_iff.mp found).1
    -- the member was false, and its argument is true
    have stored := initialised Bool (fun _ => false) (List.replicate members.length true)
      List.length_replicate place member true found (by simp [inside])
    rw [call_of_captured distinct inMembers captured] at stored
    exact absurd stored Bool.false_ne_true
  · intro free
    refine initialises_of_free distinct fun member inMembers => ?_
    exact place_targetOf_eq_member_iff.mpr fun aware => free aware member inMembers

theorem exists_underscores_of_mem_parameterNames {name : String}
    (identifiers : ∀ member ∈ members, isIdentifier member.name.toList = true)
    (member : name ∈ parameterNames members) (underscore : name.toList.head? = some '_') :
    ∃ member ∈ members, ∃ rest, member.name.toList = '_' :: '_' :: rest := by
  obtain ⟨letters, made, rfl⟩ := List.mem_map.mp member
  rw [String.toList_ofList] at underscore
  obtain ⟨base, inBases, start⟩ := exists_base_underscore made underscore
  obtain ⟨origin, inMembers, rfl⟩ := List.mem_map.mp inBases
  exact ⟨origin, inMembers,
    underscores_of_head?_parameterName (identifiers origin inMembers) start⟩

/-- Members that are identifiers with no more than one underscore in front are never captured. -/
theorem initialises_of_single_underscores (rule : AssignmentRule) (owner : TypeDeclaration)
    (distinct : (members.map MemberDeclaration.name).Nodup)
    (identifiers : ∀ member ∈ members, isIdentifier member.name.toList = true)
    (single : ∀ member ∈ members, ∀ rest, member.name.toList ≠ '_' :: '_' :: rest) :
    Initialises rule owner members := by
  refine initialises_of_free distinct fun member inMembers => ?_
  refine place_targetOf_eq_member_iff.mpr fun _ underscore captured => ?_
  obtain ⟨other, inOrder, rest, twice⟩ := exists_underscores_of_mem_parameterNames
    (fun other inOrder => identifiers other (mem_byLine.mp inOrder)) captured
    (eq_of_beq underscore)
  exact single other (mem_byLine.mp inOrder) rest twice

end Members

/-- The field `_id` has the name of the parameter for `__id`. -/
theorem initialises_iff_of_two_underscores :
    let owner : TypeDeclaration := ⟨"P", 1, 9⟩
    let members : List MemberDeclaration :=
      [⟨owner, "int", "__id", 3, .field⟩, ⟨owner, "int", "_id", 4, .field⟩]
    (members.map MemberDeclaration.name).Nodup ∧
      ¬ Initialises .underscoreAware owner members := by
  intro owner members
  have distinct : (members.map MemberDeclaration.name).Nodup := by decide
  have ordered : byLine members = members :=
    List.mergeSort_of_pairwise (by simp [members])
  have names : parameterNames members = ["_id", "id"] := by decide +kernel
  refine ⟨distinct, fun initialised => ?_⟩
  have free := (initialises_iff .underscoreAware owner members distinct).mp initialised rfl
    ⟨owner, "int", "_id", 4, .field⟩ (by simp [members]) (by decide)
  rw [ordered, names] at free
  exact free List.mem_cons_self

end ConstructorAction.Synthesis
