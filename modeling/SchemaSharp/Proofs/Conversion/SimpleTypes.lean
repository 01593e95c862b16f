import SchemaSharp.Proofs.Conversion.ReferenceClosure
import SchemaSharp.Proofs.Store.Index

/-!
What a simple type without a name is called. It stands for the type written inside it, and that one
may stand for another. Where this ends there is a named type, or none, which is text. The name of a
type of the schema is made an identifier there, and each list on the way adds brackets behind it.
-/

namespace SchemaSharp

open Schema (QName Home TypeDecl ElementDecl SimpleType Variety Document)

/-! ## Types that stand for others -/

namespace Schema.SimpleType

/-- The type and those it stands for, one behind the other. A union stands for none. -/
def chain : SimpleType → List SimpleType
  | ⟨name, variety, base, inlineBase, enumerations, home⟩ =>
      ⟨name, variety, base, inlineBase, enumerations, home⟩ ::
        if variety = .union then []
        else
          match inlineBase with
          | none => []
          | some inner => chain inner

def bottom (type : SimpleType) : SimpleType := type.chain.getLastD type

/-- The number of lists among them. -/
def rank (type : SimpleType) : Nat := type.chain.countP fun met => met.variety = .list

/-- The type that a type stands for by name, if no other is written inside it. -/
def namedBase? (type : SimpleType) : Option QName :=
  if type.variety = .union then none else type.base

variable {type inner : SimpleType}

theorem chain_eq (type : SimpleType) :
    type.chain = type ::
      if type.variety = .union then []
      else
        match type.inlineBase with
        | none => []
        | some inner => inner.chain := by
  obtain ⟨name, variety, base, inlineBase, enumerations, home⟩ := type
  conv_lhs => unfold chain

theorem chain_of_end (ends : type.variety = .union ∨ type.inlineBase = none) :
    type.chain = [type] := by
  rw [chain_eq]
  rcases ends with union | nothing
  · rw [if_pos union]
  · rw [nothing, ite_self]

theorem chain_of_inner (other : type.variety ≠ .union) (stands : type.inlineBase = some inner) :
    type.chain = type :: inner.chain := by
  rw [chain_eq, if_neg other, stands]

theorem chain_ne_nil (type : SimpleType) : type.chain ≠ [] := by
  rw [chain_eq]
  exact List.cons_ne_nil _ _

/-- Where a type stands for another one, that one leads on. -/
theorem bottom_of_inner (other : type.variety ≠ .union) (stands : type.inlineBase = some inner) :
    type.bottom = inner.bottom := by
  rw [bottom, bottom, chain_of_inner other stands, List.getLastD_cons,
    List.getLastD_eq_getLast?, List.getLastD_eq_getLast?,
    List.getLast?_eq_some_getLast (chain_ne_nil inner)]
  rfl

theorem bottom_of_end (ends : type.variety = .union ∨ type.inlineBase = none) :
    type.bottom = type := by
  rw [bottom, chain_of_end ends]
  rfl

theorem rank_of_inner (other : type.variety ≠ .union) (stands : type.inlineBase = some inner) :
    type.rank = inner.rank + if type.variety = .list then 1 else 0 := by
  simp [rank, chain_of_inner other stands, List.countP_cons]

theorem rank_of_end (ends : type.variety = .union ∨ type.inlineBase = none) :
    type.rank = if type.variety = .list then 1 else 0 := by
  simp [rank, chain_of_end ends, List.countP_cons]

end Schema.SimpleType

namespace Conversion

/-! ## Names by any normalisation -/

section

variable (normalise : Option String → Work String)

/-- As type names are spelled, with another operation for making identifiers. -/
def spelledBy : TypeName → Work String
  | .own name => normalise name
  | .known name => return name

def varietyBy (variety : Variety) (name : TypeName) : Work TypeName :=
  match variety with
  | .list => do return .known ((← spelledBy normalise name) ++ "[]")
  | _ => return name

def simpleNameBy : SimpleType → Work TypeName
  | ⟨_, variety, base, inlineBase, _, home⟩ =>
      if variety = .union then return .known Schema.textType
      else
        match inlineBase, base with
        | some inner, _ => do varietyBy normalise variety (← simpleNameBy inner)
        | none, some name => do varietyBy normalise variety (← namedType name home)
        | none, none => varietyBy normalise variety (.known Schema.textType)

/-- The name where the types end that a type stands for. -/
def bottomName (last : SimpleType) : Work String :=
  match last.namedBase? with
  | none => return Schema.textType
  | some name =>
      if name.isBuiltin then return Schema.valueType name.name
      else do
        let decl ← resolveType name last.home
        scheduleOwner decl.home decl.name
        normalise decl.name

end

variable {job : Job}

theorem spelledBy_identifier (name : TypeName) :
    spelledBy (identifier job) name = spelled job name := by
  cases name with
  | own name => rfl
  | known name => rfl

theorem varietyBy_identifier (variety : Variety) (name : TypeName) :
    varietyBy (identifier job) variety name = ofVariety job variety name := by
  cases variety with
  | list => rw [varietyBy, ofVariety, spelledBy_identifier]
  | restriction => rfl
  | union => rfl

theorem simpleNameBy_identifier :
    (type : SimpleType) → simpleNameBy (identifier job) type = simpleTypeName job type
  | ⟨_, variety, base, inlineBase, _, home⟩ => by
      unfold simpleNameBy simpleTypeName
      cases inlineBase with
      | some inner => simp only [simpleNameBy_identifier inner, varietyBy_identifier]
      | none => cases base <;> simp only [varietyBy_identifier]

theorem arrayOf_arrayOf (name : String) (rank more : Nat) :
    arrayOf (arrayOf name rank) more = arrayOf name (rank + more) := by
  induction more with
  | zero => rfl
  | succ more ih => rw [arrayOf, ih, ← Nat.add_assoc, arrayOf]

theorem varietyBy_spelled (normalise : Option String → Work String) (variety : Variety)
    (name : TypeName) :
    (do spelledBy normalise (← varietyBy normalise variety name)) = do
      return arrayOf (← spelledBy normalise name) (if variety = .list then 1 else 0) := by
  cases variety with
  | list =>
      rw [varietyBy]
      simp only [bind_assoc, pure_bind]
      rfl
  | restriction => exact (bind_pure (spelledBy normalise name)).symm
  | union => exact (bind_pure (spelledBy normalise name)).symm

/-- What stands at the end is named once, whatever naming it does, and then the brackets follow. -/
theorem simpleNameBy_spelled (normalise : Option String → Work String) : (type : SimpleType) →
    (do spelledBy normalise (← simpleNameBy normalise type)) = do
      return arrayOf (← bottomName normalise type.bottom) type.rank
  | ⟨name, variety, base, inlineBase, enumerations, home⟩ => by
      let type : SimpleType := ⟨name, variety, base, inlineBase, enumerations, home⟩
      change _ = do return arrayOf (← bottomName normalise type.bottom) type.rank
      unfold simpleNameBy
      split
      · next union =>
          have ends : type.variety = .union ∨ type.inlineBase = none := .inl union
          have nothing : type.namedBase? = none := if_pos union
          have flat : type.variety ≠ .list := by
            intro list
            cases union.symm.trans list
          rw [SimpleType.bottom_of_end ends, SimpleType.rank_of_end ends, if_neg flat, bottomName,
            nothing]
          rfl
      · next other =>
          cases inlineBase with
          | some inner =>
              have named := simpleNameBy_spelled normalise inner
              rw [SimpleType.bottom_of_inner other rfl, SimpleType.rank_of_inner other rfl]
              simp only [bind_assoc, varietyBy_spelled]
              rw [← bind_assoc, named, bind_assoc]
              simp only [pure_bind, arrayOf_arrayOf]
              rfl
          | none =>
              have ends : type.variety = .union ∨ type.inlineBase = none := .inr rfl
              have own : type.namedBase? = base := if_neg other
              rw [SimpleType.bottom_of_end ends, SimpleType.rank_of_end ends, bottomName, own]
              cases base with
              | none => exact varietyBy_spelled normalise variety (.known Schema.textType)
              | some base =>
                  simp only [bind_assoc, varietyBy_spelled, namedType]
                  split
                  · rfl
                  · simp only [bind_assoc, pure_bind]
                    rfl

/-! ## Names in a run -/

variable {before : Conversion} {type : SimpleType}

theorem scheduleOwner_run {home : Home} {owner : Entry}
    (owned : before.store.owner? home = some owner) (declaration : Option String)
    (journal : List Notice) :
    ∃ after, (scheduleOwner home declaration).run ⟨before, journal⟩ = (.ok (), after) ∧
      after.state = if owner.location ∈ before.processed then before
        else before.enqueue owner.location := by
  have sure : Task.FailsOnly (fun _ => False) (scheduleOwner home declaration) :=
    scheduleOwner_sure home declaration
  cases ran : (scheduleOwner home declaration).run ⟨before, journal⟩ with
  | mk result after =>
    cases result with
    | error failure => exact (sure ⟨before, journal⟩ failure (by rw [ran])).elim
    | ok value =>
        have left : after.state = before.extend (.ofUses (before.store.ownerOf home)) :=
          scheduleOwner_returns ⟨journal, after.journal, ran⟩
        have owner : before.store.ownerOf home = [owner.location] := by simp [Store.ownerOf, owned]
        rw [owner, extend_use] at left
        exact ⟨after, rfl, left⟩

theorem resolveType_run (name : QName) (home : Home) (logged : Logged Conversion) :
    (resolveType name home).run logged =
      match typeMeant? logged.state.store name home.location with
      | some decl => (.ok decl, logged)
      | none => (.error (.load (.unresolvedType name) home.location), logged) := by
  rw [resolveType, Task.run_current_bind]
  cases typeMeant? logged.state.store name home.location <;> rfl

theorem identifier_run (job : Job) (name : Option String) (logged : Logged Conversion) :
    (identifier job name).run logged =
      (orFail .identifier (Identifier.ofName name job.settings.cleanNames), logged) := by
  rw [identifier]
  cases orFail Failure.identifier (Identifier.ofName name job.settings.cleanNames) <;> rfl

/-- Brackets behind the answer of a task. -/
theorem run_arrayOf (task : Work String) (rank : Nat) (logged : Logged Conversion) :
    (do return arrayOf (← task) rank : Work String).run logged =
      ((task.run logged).1.map (arrayOf · rank), (task.run logged).2) := by
  rw [Task.run_bind]
  cases task.run logged with
  | mk result after => cases result <;> rfl

/-- What is found under a name is declared under its local part in a stored document, its owner. -/
theorem typeMeant?_owned (reached : Store.Reachable before.store) {name : QName}
    {location : String} {decl : TypeDecl}
    (meant : typeMeant? before.store name location = some decl) :
    ∃ owner ∈ before.store.entries, decl ∈ owner.document.types ∧ decl.name = some name.name ∧
      before.store.owner? decl.home = some owner := by
  have catalogued := reached.catalogued
  obtain ⟨uri, found⟩ := withFallback_indexed meant
  have first := (catalogued.types _).symm.trans found
  obtain ⟨owner, stored, here⟩ := List.exists_of_findSome?_eq_some first
  have declared := List.mem_of_find?_eq_some here
  have called := (Store.bears_iff.mp (List.find?_some here)).2
  refine ⟨owner, stored, declared, (Option.filter_eq_some_iff.mp called).1, ?_⟩
  have owned := (catalogued.owner?_iff catalogued.typeHomes ⟨owner, stored, declared⟩).2 owner
  exact owned.mpr ⟨stored, declared⟩

/-- How a simple type without a name is written as the type of a member. -/
def simpleTypeText (job : Job) (type : SimpleType) : Work String := do
  spelled job (← simpleTypeName job type)

theorem typeOfMember_simple (job : Job) {element target : ElementDecl}
    (inline : target.inlineType = some (.simple type)) (memberName : String) :
    typeOfMember job element target memberName = simpleTypeText job type := by
  rw [typeOfMember, memberType, inline]
  rfl

theorem simpleTypeText_eq (job : Job) (type : SimpleType) :
    simpleTypeText job type = do
      return arrayOf (← bottomName (identifier job) type.bottom) type.rank := by
  rw [← simpleNameBy_spelled, simpleNameBy_identifier]
  simp only [spelledBy_identifier]
  rfl

section

variable {last : SimpleType} {name : QName} (named : last.namedBase? = some name)
  (own : ¬ name.isBuiltin)
include named own

/-- A type of the schema is looked up first. -/
theorem bottomName_own (normalise : Option String → Work String) :
    bottomName normalise last =
      resolveType name last.home >>= fun decl =>
        scheduleOwner decl.home decl.name >>= fun _ => normalise decl.name := by
  rw [bottomName, named]
  exact if_neg own

theorem bottomName_unresolved (normalise : Option String → Work String)
    {logged : Logged Conversion}
    (unmeant : typeMeant? logged.state.store name last.home.location = none) :
    (bottomName normalise last).run logged =
      (.error (.load (.unresolvedType name) last.home.location), logged) := by
  rw [bottomName_own named own, Task.run_bind, resolveType_run, unmeant]

/-- The owner of the type is scheduled, whether the type has an identifier or not. -/
theorem bottomName_resolved {decl : TypeDecl} {owner : Entry}
    (meant : typeMeant? before.store name last.home.location = some decl)
    (owned : before.store.owner? decl.home = some owner) (journal : List Notice) :
    let outcome := (bottomName (identifier job) last).run ⟨before, journal⟩
    outcome.1 = orFail .identifier (Identifier.ofName decl.name job.settings.cleanNames) ∧
      outcome.2.state = if owner.location ∈ before.processed then before
        else before.enqueue owner.location := by
  obtain ⟨after, ran, left⟩ := scheduleOwner_run owned decl.name journal
  rw [bottomName_own named own, Task.run_bind, resolveType_run]
  dsimp only
  rw [meant]
  dsimp only
  rw [Task.run_bind, ran]
  dsimp only
  rw [identifier_run]
  exact ⟨rfl, left⟩

end

/-- A simple type without a name is called what the last of the types it stands for is called, with
brackets behind that for each list among them. That is text for a union, and where no type is named;
the type of the class library for a built-in type; and for a type of the schema the identifier of
its name, whose document enters the queue unless it was met. Whatever operation makes identifiers,
it is applied once, to the name as it is declared, before there are any brackets. A name that means
nothing fails, and then nothing was done. -/
theorem simple_types_named_once (job : Job) (type : SimpleType) :
    (∀ element target memberName, target.inlineType = some (.simple type) →
      typeOfMember job element target memberName = simpleTypeText job type) ∧
    (simpleNameBy (identifier job) type = simpleTypeName job type ∧
      spelledBy (identifier job) = spelled job) ∧
    (∀ normalise : Option String → Work String,
      (do spelledBy normalise (← simpleNameBy normalise type)) = do
        return arrayOf (← bottomName normalise type.bottom) type.rank) ∧
    ∀ before journal,
      let outcome := (simpleTypeText job type).run ⟨before, journal⟩
      (type.bottom.namedBase? = none →
        outcome = (.ok (arrayOf "String" type.rank), ⟨before, journal⟩)) ∧
      ∀ name, type.bottom.namedBase? = some name →
        (name.isBuiltin →
          outcome = (.ok (arrayOf (Schema.valueType name.name) type.rank), ⟨before, journal⟩)) ∧
        (¬ name.isBuiltin → typeMeant? before.store name type.bottom.home.location = none →
          outcome = (.error (.load (.unresolvedType name) type.bottom.home.location),
            ⟨before, journal⟩)) ∧
        (¬ name.isBuiltin → before.store.Reachable → ∀ decl,
          typeMeant? before.store name type.bottom.home.location = some decl →
            ∃ owner ∈ before.store.entries, decl ∈ owner.document.types ∧
              decl.name = some name.name ∧
              outcome.1 = (orFail .identifier
                (Identifier.ofName (some name.name) job.settings.cleanNames)).map
                  (arrayOf · type.rank) ∧
              outcome.2.state = if owner.location ∈ before.processed then before
                else before.enqueue owner.location) := by
  refine ⟨fun element target memberName inline => typeOfMember_simple job inline memberName,
    ⟨simpleNameBy_identifier type, funext spelledBy_identifier⟩,
    fun normalise => simpleNameBy_spelled normalise type, fun before journal => ?_⟩
  rw [simpleTypeText_eq, run_arrayOf]
  refine ⟨fun nothing => ?_, fun name named => ⟨fun builtin => ?_, fun own unmeant => ?_,
    fun own reached decl meant => ?_⟩⟩
  · rw [bottomName, nothing]
    rfl
  · rw [bottomName, named]
    dsimp only
    rw [if_pos builtin]
    rfl
  · rw [bottomName_unresolved named own _ unmeant]
    rfl
  · obtain ⟨owner, stored, declared, called, owned⟩ := typeMeant?_owned reached meant
    obtain ⟨answered, left⟩ := bottomName_resolved named own meant owned journal
    rw [called] at answered
    rw [answered]
    exact ⟨owner, stored, declared, called, rfl, left⟩

/-- A file that declares a type. -/
def itemShelf : World where
  directory := ⟨['/'], []⟩
  files := [(["a".toList], pairText "<s:complexType name='line-item'/>")]
  web := []

def itemJob : Job := ⟨{ inputs := ["a"] }, itemShelf.source false⟩

/-- A conversion in which nothing was done but to load the file. -/
def itemRun (begun : Store) : Conversion :=
  ⟨((Store.load (itemShelf.source false) "a").perform begun).2.state, [], [], [], [], [], [], [],
    false, [], [], false⟩

/-- A list of what a restriction of a list of the type allows. -/
def nestedLists : SimpleType :=
  let home : Home := ⟨"file:///a", 0⟩
  let items : SimpleType := ⟨none, .list, some ⟨none, "line-item"⟩, none, [], home⟩
  let narrowed : SimpleType := ⟨none, .restriction, none, some items, ["x"], home⟩
  ⟨none, .list, none, some narrowed, [], home⟩

set_option maxRecDepth 100000 in
theorem itemShelf_computed :
    ((Store.start itemShelf.directory 0 []).toOption.map fun begun =>
      let store := (itemRun begun).store
      (store.entries.map Entry.location,
        (typeMeant? store ⟨none, "line-item"⟩ "file:///a").isSome)) =
      some (["file:///a"], true) := by
  simp only [itemRun, itemShelf, pairText, Text.Utf8.encode_toList]
  decide +kernel

theorem nestedLists_named_once :
    nestedLists.bottom.namedBase? = some ⟨none, "line-item"⟩ ∧ nestedLists.rank = 2 ∧
      ∃ begun, Store.start itemShelf.directory 0 [] = .ok begun ∧
        Store.Reachable (itemRun begun).store ∧
        ∃ decl, typeMeant? (itemRun begun).store ⟨none, "line-item"⟩
            nestedLists.bottom.home.location = some decl ∧
          let outcome := (simpleTypeText itemJob nestedLists).run ⟨itemRun begun, []⟩
          outcome.1 = .ok "LineItem[][]" ∧ outcome.2.state.queue = ["file:///a"] := by
  obtain ⟨begun, made, computed⟩ := Option.map_eq_some_iff.mp itemShelf_computed
  obtain ⟨places, found⟩ := Prod.mk.inj computed
  obtain ⟨decl, meant⟩ := Option.isSome_iff_exists.mp found
  have started := ok_of_toOption made
  have reached : Store.Reachable (itemRun begun).store := .load (.start started) _ _
  have named : nestedLists.bottom.namedBase? = some ⟨none, "line-item"⟩ := by decide +kernel
  have ranked : nestedLists.rank = 2 := by decide +kernel
  obtain ⟨_, _, resolved⟩ :=
    ((simple_types_named_once itemJob nestedLists).2.2.2 (itemRun begun) []).2 _ named
  obtain ⟨owner, stored, _, _, answered, left⟩ := resolved (by decide) reached decl meant
  have place : owner.location ∈ ["file:///a"] := places ▸ List.mem_map_of_mem stored
  rw [List.mem_singleton] at place
  refine ⟨named, ranked, begun, started, reached, decl, meant, ?_, ?_⟩
  · have identified : Identifier.ofName (some "line-item") true = .ok "LineItem" :=
      ok_of_toOption (by decide +kernel)
    rw [answered, ranked, show itemJob.settings.cleanNames = true from rfl, identified]
    rfl
  · rw [left, place]
    rfl

end Conversion

end SchemaSharp
