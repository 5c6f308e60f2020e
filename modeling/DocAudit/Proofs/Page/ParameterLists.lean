import DocAudit.Proofs.Page.KeptLists
import DocAudit.Proofs.Parameter.WellFormed

/-!
# Lists of parameters on a page

Examples and rows of tables give well-formed parameters (`Page.isWellFormed_scan`), and every step
of reconciling a page keeps them so (`Page.IsWellFormed.reconcile`).  A page that was reconciled
therefore lists no name twice, and it never says of a parameter that it is required and optional at
once (`Page.parameter_lists_wellFormed`).
-/

namespace DocAudit

open List Audit

namespace Page

variable {settings : Settings} {page : Page} {type : ValueType} {parameters : List Parameter}

/-! ## What a page shows -/

/-- A type on a page: that of a parameter of a resource, a request or a table, or one that stands in
such a type. -/
inductive Shows (page : Page) : ValueType → Prop where
  | property {resource : Resource} {parameter : Parameter} (isShown : resource ∈ page.resources)
      (mem : parameter ∈ resource.parameters) : Shows page parameter.type
  | parameter {method : Method} {parameter : Parameter} (isShown : method ∈ page.methods)
      (mem : parameter ∈ method.parameters) : Shows page parameter.type
  | bodyParameter {method : Method} {parameter : Parameter} (isShown : method ∈ page.methods)
      (mem : parameter ∈ method.bodyParameters) : Shows page parameter.type
  | row {table : Table} {row : Parameter} (isShown : table ∈ page.tables)
      (mem : row ∈ table.parameters) :
      Shows page row.type
  | element {element : ValueType} {dimensions : Nat}
      (outer : Shows page (.collection element dimensions)) :
      Shows page element
  | member {name : Option String} {isEnum : Bool} {members : List Parameter} {member : Parameter}
      (outer : Shows page (.object name isEnum (some members))) (mem : member ∈ members) :
      Shows page member.type

/-- A list of parameters on a page: those of a resource, of a request or of its body, or the members
that are shown of an object. -/
inductive Lists (page : Page) : List Parameter → Prop where
  | properties {resource : Resource} (isShown : resource ∈ page.resources) :
      Lists page resource.parameters
  | parameters {method : Method} (isShown : method ∈ page.methods) : Lists page method.parameters
  | bodyParameters {method : Method} (isShown : method ∈ page.methods) :
      Lists page method.bodyParameters
  | members {name : Option String} {isEnum : Bool} {members : List Parameter}
      (isShown : page.Shows (.object name isEnum (some members))) : Lists page members

/-- The members that are shown of values of a type. -/
def membersShown : ValueType → List Parameter
  | .object _ _ (some members) => members
  | _ => []

lemma lists_membersShown (isShown : page.Shows type) (nonempty : membersShown type ≠ []) :
    page.Lists (membersShown type) := by
  cases type with
  | object name isEnum members =>
      cases members with
      | some members => exact .members isShown
      | none => exact absurd rfl nonempty
  | _ => exact absurd rfl nonempty

/-- A page whose resources and requests have well-formed parameters, and whose tables have sound
rows. -/
structure IsWellFormed (page : Page) : Prop where
  properties : ∀ resource ∈ page.resources, Parameter.AreWellFormed resource.parameters
  parameters : ∀ method ∈ page.methods, Parameter.AreWellFormed method.parameters
  bodyParameters : ∀ method ∈ page.methods, Parameter.AreWellFormed method.bodyParameters
  rows : ∀ table ∈ page.tables, ∀ row ∈ table.parameters, row.IsSound

/-- All types on a well-formed page are well formed. -/
lemma Shows.isWellFormed (h : page.Shows type) (wellFormed : page.IsWellFormed) :
    type.IsWellFormed := by
  induction h with
  | property isShown mem => exact ((wellFormed.properties _ isShown).sound _ mem).type
  | parameter isShown mem => exact ((wellFormed.parameters _ isShown).sound _ mem).type
  | bodyParameter isShown mem => exact ((wellFormed.bodyParameters _ isShown).sound _ mem).type
  | row isShown mem => exact (wellFormed.rows _ isShown _ mem).type
  | element _ ih =>
      cases ih with
      | collection inside _ _ => exact inside
  | member _ mem ih =>
      cases ih with
      | shown _ _ inside => exact inside _ mem

/-- All lists on a well-formed page are well formed. -/
lemma Lists.areWellFormed (h : page.Lists parameters) (wellFormed : page.IsWellFormed) :
    Parameter.AreWellFormed parameters := by
  cases h with
  | properties isShown => exact wellFormed.properties _ isShown
  | parameters isShown => exact wellFormed.parameters _ isShown
  | bodyParameters isShown => exact wellFormed.bodyParameters _ isShown
  | members isShown =>
      cases isShown.isWellFormed wellFormed with
      | shown distinct agree inside =>
          exact ⟨distinct, fun member mem => ⟨agree member mem, inside member mem⟩⟩

/-! ## Pages as they are read and reconciled -/

lemma isWellFormed_iff_allLists :
    page.IsWellFormed ↔ page.AllLists Parameter.AreWellFormed Parameter.IsSound :=
  ⟨fun h => { h with }, fun h => { h with }⟩

lemma isWellFormed_scan (settings : Settings) (path : String) (blocks : List Block) :
    (Page.scan settings path blocks).value.IsWellFormed :=
  isWellFormed_iff_allLists.2 <| allLists_scan .nil
    (fun _ _ _ _ _ read => Resource.areWellFormed_ofExample read)
    fun _ _ shape _ titles => Table.isSound_of_mem_read _ shape titles _

namespace IsWellFormed

variable (h : page.IsWellFormed)
include h

lemma withLinks (links : List Markdown.Link) : ({ page with links } : Page).IsWellFormed :=
  { h with }

/-- Reconciling keeps a page well formed. -/
lemma reconcile (settings : Settings) (context : Option String) :
    (page.reconcile settings context).value.IsWellFormed :=
  isWellFormed_iff_allLists.2 <| (isWellFormed_iff_allLists.1 h).reconcile
    (fun wellFormed sound => wellFormed.mergeLists sound) settings context

end IsWellFormed

/-- **Lists of parameters are well formed.**  Whatever blocks a page has, when it is reconciled no
list of parameters on it repeats a name: neither that of a resource, a request or the body of a
request, nor the members of an object at any depth.  Whether a parameter in such a list is optional
is known exactly if it is known whether it is required, and is the opposite of it. -/
theorem parameter_lists_wellFormed (settings : Settings) (context : Option String) (path : String)
    (blocks : List Block) (links : List Markdown.Link) (parameters : List Parameter)
    (listed : ({ (Page.scan settings path blocks).value with links }.reconcile
      settings context).value.Lists parameters) :
    (parameters.map (·.name)).Nodup
      ∧ ∀ parameter ∈ parameters, parameter.optional = parameter.required.map (!·) := by
  have read : ({ (Page.scan settings path blocks).value with links } : Page).IsWellFormed :=
    (isWellFormed_scan settings path blocks).withLinks links
  have wellFormed : Parameter.AreWellFormed parameters :=
    listed.areWellFormed (read.reconcile settings context)
  exact ⟨wellFormed.distinct, fun parameter mem => (wellFormed.sound parameter mem).agrees⟩

/-- A resource and an object in it that are shown with repeated names, and a table with two rows of
one name. -/
def orderBlocks : List Block :=
  [⟨.comment, "<!-- \x7b \"blockType\": \"resource\", \"@odata.type\": \"foo.order\" \x7d -->",
      1, none⟩,
   ⟨.code, "\x7b \"id\": 1, \"buyer\": \x7b \"name\": 1, \"mail\": 2, \"name\": 3 \x7d, "
      ++ "\"id\": \"x\" \x7d", 2, some "json"⟩,
   ⟨.table ⟨["Property", "Type", "Required"],
      [["id", "String", "yes"], ["note", "String", ""], ["note", "String", "no"]]⟩, "", 7, none⟩]

/-- Every name is listed once, and what a later row knows is filled in. -/
theorem order_listed :
    let page :=
      ({ (Page.scan .stock "order.md" orderBlocks).value with links := [] }.reconcile
        .stock none).value
    let facts (parameter : Parameter) := (parameter.name, parameter.required, parameter.optional)
    let isWell (parameters : List Parameter) := (parameters.map (·.name)).Nodup
      ∧ ∀ parameter ∈ parameters, parameter.optional = parameter.required.map (!·)
    (∃ parameters, page.Lists parameters ∧ isWell parameters ∧ parameters.map facts
        = [("id", some true, some false), ("buyer", none, none), ("note", some false, some true)])
      ∧ ∃ members, page.Lists members ∧ isWell members
          ∧ members.map facts = [("name", none, none), ("mail", none, none)] := by
  intro page facts isWell
  have well (parameters : List Parameter) (listed : page.Lists parameters) : isWell parameters :=
    parameter_lists_wellFormed .stock none "order.md" orderBlocks [] parameters listed
  -- each parameter is followed by the members that are shown of it
  have shown : page.resources.map (·.parameters.map fun parameter =>
      facts parameter :: (membersShown parameter.type).map facts)
        = [[[("id", some true, some false)],
            [("buyer", none, none), ("name", none, none), ("mail", none, none)],
            [("note", some false, some true)]]] := by
    decide +kernel
  obtain ⟨resource, only⟩ : ∃ resource, page.resources = [resource] := by
    rw [← length_eq_one_iff, ← length_map, shown, length_singleton]
  have isShown : resource ∈ page.resources := only ▸ mem_singleton_self resource
  rw [only, map_singleton, singleton_inj] at shown
  refine ⟨⟨resource.parameters, .properties isShown, well _ (.properties isShown), ?_⟩, ?_⟩
  · have heads := congrArg (map (·.headD ("", none, none))) shown
    rwa [map_map] at heads
  · have second := congrArg (·[1]?) shown
    obtain ⟨buyer, isBuyer, same⟩ := Option.map_eq_some_iff.1 ((getElem?_map ..).symm.trans second)
    have members : (membersShown buyer.type).map facts
        = [("name", none, none), ("mail", none, none)] :=
      (cons.inj same).2
    have listed : page.Lists (membersShown buyer.type) := by
      refine lists_membersShown (.property isShown (mem_of_getElem? isBuyer)) fun noMembers => ?_
      rw [noMembers] at members
      cases members
    exact ⟨membersShown buyer.type, listed, well _ listed, members⟩

end Page

end DocAudit
