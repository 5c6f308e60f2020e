import DocAudit.Proofs.ResourceGraph.BasesFirst
import DocAudit.Proofs.ResourceGraph.CircularBases

/-!
# Marks of names

`Visits.visit` is told the chain of names that are being visited, and goes by it and by the names
that are finished.  `Progress` keeps more: a mark for each name, the chain as one list that is
pushed and popped, and the positions of definitions that have been put in order; `Progress.visit`
goes by the marks alone and has no other bound than the depth of its calls.

Marks, chain and order always say the same.  `Progress.ofVisits` is the progress that belongs to
finished names and a chain, and every visit leads from there to there (`Progress.exists_run`,
`Progress.foldlM_visit_of_run`).  So what is known about visits is known at every call
(`Progress.Called.exists_visits`), and calls are never deeper than one more than there are names:
`Progress.calls_consistent`.
-/

namespace DocAudit

open List Definitions ResourceGraph

/-! ## Visiting by marks -/

/-- How far the visit of a name is. -/
inductive Mark where
  | inProgress
  | done
  deriving DecidableEq, Repr

/-- All that visits keep track of: the marks of names, the names that are being visited, the latest
last, the positions of the definitions that are in order so far, and the cycles met. -/
structure Progress where
  marks : String → Option Mark
  chain : List String
  order : List ℕ
  cycles : List (List String)

namespace Progress

/-- Nothing visited. -/
def start : Progress := ⟨fun _ => none, [], [], []⟩

/-- A name that is being visited is met again.  The cycle starts at its place in the chain, or with
the whole chain if it has none. -/
def close (progress : Progress) (name : String) : Progress :=
  let first := (progress.chain.findIdx? (· == name)).getD 0
  { progress with cycles := progress.cycles ++ [progress.chain.drop first ++ [name]] }

/-- The visit of a name begins. -/
def enter (progress : Progress) (name : String) : Progress :=
  { progress with
    marks := Function.update progress.marks name (some .inProgress)
    chain := progress.chain ++ [name] }

/-- The visit of a name ends, and its definitions are put in order. -/
def leave (resources : List Resource) (name : String) (progress : Progress) : Progress :=
  { progress with
    marks := Function.update progress.marks name (some .done)
    chain := progress.chain.dropLast
    order := progress.order ++ positions resources name }

/-- Visits a name with all that it derives from, if calls no deeper than `depth` are enough for
it. -/
def visit (resources : List Resource) : ℕ → Progress → String → Option Progress
  | 0, _, _ => none
  | depth + 1, progress, name =>
    match progress.marks name with
    | some .done => some progress
    | some .inProgress => some (progress.close name)
    | none =>
      if isKnown resources name then
        ((knownBases resources name).foldlM (visit resources depth) (progress.enter name)).map
          (leave resources name)
      else some progress

/-- The calls that visiting all names makes: `Called resources level progress name` says that one of
them, so deep, is for the name and finds the progress.  There is a call for each name, and a visit
that begins makes one for each base type. -/
inductive Called (resources : List Resource) : ℕ → Progress → String → Prop
  | outer {before name after depth progress} (split : names resources = before ++ name :: after)
      (visited : before.foldlM (visit resources depth) start = some progress) :
      Called resources 1 progress name
  | inner {level caller name before base after depth progress}
      (call : Called resources level caller name)
      (unmarked : caller.marks name = none) (known : isKnown resources name = true)
      (split : knownBases resources name = before ++ base :: after)
      (visited : before.foldlM (visit resources depth) (caller.enter name) = some progress) :
      Called resources (level + 1) progress base

/-! ## What marks stand for -/

/-- The progress when some names are finished and the names of a chain, the latest first, are being
visited. -/
def ofVisits (resources : List Resource) (chain : List String) (visits : Visits) : Progress where
  marks name :=
    if name ∈ visits.finished then some .done else if name ∈ chain then some .inProgress else none
  chain := chain.reverse
  order := visits.finished.flatMap (positions resources)
  cycles := visits.cycles

variable {resources : List Resource} {chain todo : List String} {visits after : Visits}
  {name : String} {progress : Progress} {depth level : ℕ}

lemma ofVisits_start : ofVisits resources [] Visits.start = start := by
  simp [ofVisits, Visits.start, start]

lemma enter_ofVisits (new : name ∉ visits.finished) :
    (ofVisits resources chain visits).enter name = ofVisits resources (name :: chain) visits := by
  have marks : Function.update (ofVisits resources chain visits).marks name (some .inProgress)
      = (ofVisits resources (name :: chain) visits).marks := by
    funext other
    by_cases same : other = name
    · subst same
      simp [ofVisits, new]
    · simp [ofVisits, same]
  rw [enter, marks]
  simp [ofVisits]

lemma leave_ofVisits : (ofVisits resources (name :: chain) visits).leave resources name
    = ofVisits resources chain ⟨visits.finished ++ [name], visits.cycles⟩ := by
  have marks : Function.update (ofVisits resources (name :: chain) visits).marks name (some .done)
      = (ofVisits resources chain ⟨visits.finished ++ [name], visits.cycles⟩).marks := by
    funext other
    by_cases same : other = name
    · subst same
      simp [ofVisits]
    · simp [ofVisits, same]
  rw [leave, marks]
  simp [ofVisits]

/-- In a chain without repetitions, the names from the place of a name on are those of the walk back
to it. -/
lemma findIdx?_reverse_of_mem (nodup : chain.Nodup) (met : name ∈ chain) :
    ∃ first, chain.reverse.findIdx? (· == name) = some first
      ∧ chain.reverse.drop first ++ [name] = Visits.cycle chain name := by
  obtain ⟨latest, ⟨earlier, rfl⟩, walk⟩ := Visits.exists_cycle_eq met
  have turned : (latest ++ [name] ++ earlier).reverse = earlier.reverse
      ++ name :: latest.reverse := by simp
  have absent : earlier.reverse.findIdx? (· == name) = none := by
    rw [findIdx?_eq_none_iff]
    intro other mem
    rw [beq_eq_false_iff_ne]
    exact ((nodup_append.1 nodup).2.2 name (by simp) other (mem_reverse.1 mem)).symm
  refine ⟨earlier.reverse.length, ?_, ?_⟩
  · rw [turned, findIdx?_append, absent, findIdx?_cons, beq_self_eq_true]
    simp
  · rw [turned, drop_left, walk]
    rfl

lemma close_ofVisits (nodup : chain.Nodup) (met : name ∈ chain) :
    (ofVisits resources chain visits).close name
    = ofVisits resources chain ⟨visits.finished, visits.cycles ++ [Visits.cycle chain name]⟩ := by
  obtain ⟨first, found, walk⟩ := findIdx?_reverse_of_mem nodup met
  rw [close, ← walk]
  simp [ofVisits, found]

/-! ## Single visits -/

lemma visit_of_finished (done : name ∈ visits.finished) :
    visit resources (depth + 1) (ofVisits resources chain visits) name
      = some (ofVisits resources chain visits) := by
  simp [visit, ofVisits, done]

lemma visit_of_met (nodup : chain.Nodup) (new : name ∉ visits.finished) (met : name ∈ chain) :
    visit resources (depth + 1) (ofVisits resources chain visits) name
      = some (ofVisits resources chain ⟨visits.finished,
        visits.cycles ++ [Visits.cycle chain name]⟩) := by
  rw [← close_ofVisits nodup met]
  simp [visit, ofVisits, new, met]

lemma visit_of_new (known : name ∈ names resources) (new : name ∉ visits.finished)
    (fresh : name ∉ chain) :
    visit resources (depth + 1) (ofVisits resources chain visits) name
      = ((knownBases resources name).foldlM (visit resources depth)
          (ofVisits resources (name :: chain) visits)).map (leave resources name) := by
  have isKnown : isKnown resources name = true := isKnown_iff.2 (mem_names.1 known)
  have unmarked : (ofVisits resources chain visits).marks name = none := by
    simp [ofVisits, new, fresh]
  rw [visit, unmarked, if_pos isKnown, enter_ofVisits new]

/-! ## Whole visits -/

/-- What visiting by marks comes to, a run of visits comes to. -/
theorem exists_run (nodup : chain.Nodup) (known : todo ⊆ names resources)
    (visited : todo.foldlM (visit resources depth) (ofVisits resources chain visits)
      = some progress) :
    ∃ after, Visits.Run (knownBases resources) chain visits todo after
      ∧ progress = ofVisits resources chain after := by
  -- over the depth for the names below, and inside of it over the names of one call
  induction depth generalizing chain todo visits progress with
  | zero =>
      cases todo with
      | nil => exact ⟨visits, .nil, (Option.some.inj visited).symm⟩
      | cons name rest => cases visited
  | succ depth ihDepth =>
      induction todo generalizing visits with
      | nil => exact ⟨visits, .nil, (Option.some.inj visited).symm⟩
      | cons name rest ih =>
          obtain ⟨nameKnown, restKnown⟩ := cons_subset.1 known
          rw [foldlM_cons] at visited
          by_cases done : name ∈ visits.finished
          · rw [visit_of_finished done] at visited
            obtain ⟨after, run, rfl⟩ := ih restKnown visited
            exact ⟨after, .finished done run, rfl⟩
          · by_cases met : name ∈ chain
            · rw [visit_of_met nodup done met] at visited
              obtain ⟨after, run, rfl⟩ := ih restKnown visited
              exact ⟨after, .closing done met run, rfl⟩
            · rw [visit_of_new nameKnown done met] at visited
              obtain ⟨left, visitedBelow, visited⟩ := Option.bind_eq_some_iff.1 visited
              obtain ⟨entered, inside, rfl⟩ := Option.map_eq_some_iff.1 visitedBelow
              obtain ⟨below, inner, rfl⟩ := ihDepth (nodup_cons.2 ⟨met, nodup⟩)
                (fun base isBase => (known_names name base isBase).2) inside
              rw [leave_ofVisits] at visited
              obtain ⟨after, run, rfl⟩ := ih restKnown visited
              exact ⟨after, .entering done met inner run, rfl⟩

/-- As long as no name of the chain is repeated, there is depth for one more call. -/
lemma exists_depth_eq (nodup : chain.Nodup) (known : chain ⊆ names resources)
    (enough : (names resources).length < depth + chain.length) : ∃ more, depth = more + 1 := by
  have short := (subperm_of_subset nodup known).length_le
  exact Nat.exists_eq_add_one_of_ne_zero (by omega)

/-- **The depth is enough.**  A run of visits is one by marks, with calls for which there are names
left. -/
theorem foldlM_visit_of_run (run : Visits.Run (knownBases resources) chain visits todo after)
    (nodup : chain.Nodup) (chainKnown : chain ⊆ names resources) (known : todo ⊆ names resources)
    (enough : (names resources).length < depth + chain.length) :
    todo.foldlM (visit resources depth) (ofVisits resources chain visits)
      = some (ofVisits resources chain after) := by
  induction run generalizing depth with
  | nil => rfl
  | finished done _ ih =>
      obtain ⟨depth, rfl⟩ := exists_depth_eq nodup chainKnown enough
      rw [foldlM_cons, visit_of_finished done]
      exact ih nodup chainKnown (cons_subset.1 known).2 enough
  | closing new met _ ih =>
      obtain ⟨depth, rfl⟩ := exists_depth_eq nodup chainKnown enough
      rw [foldlM_cons, visit_of_met nodup new met]
      exact ih nodup chainKnown (cons_subset.1 known).2 enough
  | @entering chain visits name rest below after new fresh _ _ ihInner ihNext =>
      obtain ⟨nameKnown, restKnown⟩ := cons_subset.1 known
      have nodupInside : (name :: chain).Nodup := nodup_cons.2 ⟨fresh, nodup⟩
      have knownInside : name :: chain ⊆ names resources := cons_subset.2 ⟨nameKnown, chainKnown⟩
      obtain ⟨depth, rfl⟩ := exists_depth_eq nodup chainKnown enough
      rw [foldlM_cons, visit_of_new nameKnown new fresh,
        ihInner nodupInside knownInside (fun base isBase => (known_names name base isBase).2)
          (by rw [length_cons]; omega), Option.map_some, leave_ofVisits]
      exact ihNext nodup chainKnown restKnown enough

/-! ## Calls -/

/-- What every call finds: the chain has different names, each followed by one that it has as a base
type; they are the ones that are marked as being visited; and the definitions in order are those of
the names that are marked as done, name after name. -/
structure IsConsistent (resources : List Resource) (progress : Progress) : Prop where
  nodup : progress.chain.Nodup
  linked : progress.chain.IsChain (HasBase resources)
  inProgress : ∀ name, name ∈ progress.chain ↔ progress.marks name = some .inProgress
  done : ∃ names : List String, names.Nodup
    ∧ (∀ name, name ∈ names ↔ progress.marks name = some .done)
    ∧ progress.order = names.flatMap (positions resources)

/-- The progress that a call finds belongs to visits, and the call is for a base type of the latest
name. -/
lemma Called.exists_visits (call : Called resources level progress name) : ∃ chain visits,
    progress = ofVisits resources chain visits
      ∧ Visits.Invariant (knownBases resources) chain visits
      ∧ Visits.Pending (knownBases resources) chain [name] ∧ name :: chain ⊆ names resources
      ∧ level = chain.length + 1 := by
  induction call with
  | @outer before name after depth progress split visited =>
      rw [← ofVisits_start] at visited
      have known : before ++ name :: after ⊆ names resources := split ▸ Subset.refl _
      obtain ⟨beforeKnown, afterKnown⟩ := append_subset.1 known
      -- what the call finds is left by a run over the names before its own
      obtain ⟨visits, run, rfl⟩ := exists_run nodup_nil beforeKnown visited
      refine ⟨[], visits, rfl, run.invariant Visits.invariant_start (by simp [Visits.Pending]),
        by simp [Visits.Pending], ?_, rfl⟩
      exact cons_subset.2 ⟨afterKnown mem_cons_self, nil_subset _⟩
  | @inner level caller name before base after depth progress _ unmarked _ split visited ih =>
      obtain ⟨chain, visits, rfl, inv, pending, known, rfl⟩ := ih
      have new : name ∉ visits.finished := fun done => by simp [ofVisits, done] at unmarked
      have fresh : name ∉ chain := fun met => by simp [ofVisits, new, met] at unmarked
      have entered := inv.enter new fresh pending.head
      rw [enter_ofVisits new] at visited
      have bases : before ++ base :: after ⊆ knownBases resources name := split ▸ Subset.refl _
      obtain ⟨beforeBases, afterBases⟩ := append_subset.1 bases
      have isBase : base ∈ knownBases resources name := afterBases mem_cons_self
      have allKnown : knownBases resources name ⊆ names resources :=
        fun other isBase => (known_names name other isBase).2
      obtain ⟨after, run, rfl⟩ := exists_run (nodup_append.1 entered.nodup).2.1
        (List.Subset.trans beforeBases allKnown) visited
      refine ⟨name :: chain, after, rfl, run.invariant entered ?_, ?_,
        cons_subset.2 ⟨allKnown isBase, known⟩, rfl⟩
      · rintro latest ⟨⟩
        exact beforeBases
      · rintro latest ⟨⟩
        simpa using isBase

/-- The progress of visits is consistent. -/
lemma isConsistent_ofVisits (inv : Visits.Invariant (knownBases resources) chain visits) :
    (ofVisits resources chain visits).IsConsistent resources := by
  obtain ⟨nodupFinished, nodupChain, apart⟩ := nodup_append.1 inv.nodup
  refine ⟨nodup_reverse.2 nodupChain, ?_, fun name => ?_, visits.finished, nodupFinished,
    fun name => ?_, rfl⟩
  · exact isChain_reverse.2 (inv.linked.imp fun _ _ isBase => isBase_knownBases.1 isBase)
  · have new (met : name ∈ chain) : name ∉ visits.finished :=
      fun done => apart name done name met rfl
    by_cases met : name ∈ chain <;> simp [ofVisits, met, new]
  · by_cases done : name ∈ visits.finished <;> simp [ofVisits, done]

lemma Called.isConsistent (call : Called resources level progress name) :
    progress.IsConsistent resources := by
  obtain ⟨chain, visits, rfl, inv, -⟩ := call.exists_visits
  exact isConsistent_ofVisits inv

/-- A call is for a base type of the last name of the chain. -/
lemma Called.hasBase (call : Called resources level progress name) :
    ∀ last ∈ progress.chain.getLast?, HasBase resources last name := by
  obtain ⟨chain, visits, rfl, -, pending, -⟩ := call.exists_visits
  intro last isLast
  rw [ofVisits, getLast?_reverse] at isLast
  exact isBase_knownBases.1 (pending.head last isLast)

/-- A call is one deeper than the chain, which has different names. -/
lemma Called.level_eq (call : Called resources level progress name) :
    level = progress.chain.length + 1 ∧ level ≤ (names resources).length + 1 := by
  obtain ⟨chain, visits, rfl, inv, -, known, rfl⟩ := call.exists_visits
  have short := (subperm_of_subset (nodup_append.1 inv.nodup).2.1 (cons_subset.1 known).2).length_le
  exact ⟨by simp [ofVisits], Nat.succ_le_succ short⟩

/-- What is marked as being visited has a place in the chain, where a cycle starts. -/
lemma Called.exists_place (call : Called resources level progress name)
    (marked : progress.marks name = some .inProgress) :
    ∃ first, progress.chain.findIdx? (· == name) = some first
      ∧ IsClosedWalk (HasBase resources) (progress.chain.drop first ++ [name])
      ∧ (progress.chain.drop first).Nodup := by
  have consistent := call.isConsistent
  obtain ⟨chain, visits, rfl, inv, pending, -⟩ := call.exists_visits
  have met : name ∈ chain := by simpa [ofVisits] using (consistent.inProgress name).2 marked
  obtain ⟨first, found, walk⟩ := findIdx?_reverse_of_mem (nodup_append.1 inv.nodup).2.1 met
  have edges : Visits.IsBase (knownBases resources) = HasBase resources :=
    funext₂ fun _ _ => propext isBase_knownBases
  refine ⟨first, found, ?_, consistent.nodup.sublist (drop_sublist _ _)⟩
  rw [ofVisits, walk, ← edges]
  exact Visits.isClosedWalk_cycle inv.linked met pending.head

/-! ## All names visited -/

/-- All names can be visited by calls no deeper than one more than there are names. -/
lemma foldlM_visit_names :
    (names resources).foldlM (visit resources ((names resources).length + 1)) start
    = some (ofVisits resources [] (Visits.ofNames (knownBases resources) (names resources))) := by
  rw [← ofVisits_start]
  exact foldlM_visit_of_run (Visits.run_all known_names) nodup_nil (nil_subset _)
    (Subset.refl _) (by simp)

/-- In the end the definitions are in the order of the graph. -/
lemma order_ofNames (definitions : List Resource) :
    (ofVisits (reconciled definitions) [] (Visits.ofNames (knownBases (reconciled definitions))
      (names (reconciled definitions)))).order = (resolve definitions).value.order := by
  have samePositions : positions (reconciled definitions) = positions definitions :=
    funext fun _ => positions_map name_agreed
  rw [order_resolve, sortedNames_resolve, ← samePositions]
  rfl

/-- **Marks, chain and order agree at every call** that visiting the names of a set makes.

* What a call finds is consistent.  Its name is a base type of the last one of the chain, if there
  is one, and if it is marked as being visited, it has a place in the chain, and the walk from there
  back to it is closed and meets no name twice.
* A call is one deeper than the names of the chain, and so no deeper than one more than there are
  names.
* Calls that deep are enough.  In the end the chain is empty, the definitions are in the order of
  the graph, where the definitions of each name stand together and each position stands once, and
  the cycles are those that are reported. -/
theorem calls_consistent (definitions : List Resource) :
    let resources := reconciled definitions
    (∀ level progress name, Called resources level progress name →
        progress.IsConsistent resources
        ∧ (∀ last ∈ progress.chain.getLast?, HasBase resources last name)
        ∧ (progress.marks name = some .inProgress →
            ∃ first, progress.chain.findIdx? (· == name) = some first
              ∧ IsClosedWalk (HasBase resources) (progress.chain.drop first ++ [name])
              ∧ (progress.chain.drop first).Nodup)
        ∧ level = progress.chain.length + 1 ∧ level ≤ (names definitions).length + 1)
    ∧ ∃ last, (names definitions).foldlM (visit resources ((names definitions).length + 1)) start
      = some last
        ∧ last.chain = [] ∧ last.order = (resolve definitions).value.order
        ∧ last.order ~ List.range definitions.length
        ∧ (∀ name ∈ names definitions, last.marks name = some .done
          ∧ positions definitions name <:+: last.order)
        ∧ last.cycles = circularWalks definitions := by
  intro resources
  have sameNames : names resources = names definitions := names_map name_agreed
  rw [← sameNames]
  refine ⟨fun level progress name call =>
    ⟨call.isConsistent, call.hasBase, call.exists_place, call.level_eq⟩,
    _, foldlM_visit_names, rfl, order_ofNames definitions, ?_, fun name known => ⟨?_, ?_⟩, rfl⟩
  · rw [order_ofNames]
    exact order_perm
  · simp [ofVisits, Visits.mem_finished known_names, known]
  · rw [order_ofNames]
    exact positions_part_order (mem_sortedNames.2 (mem_names.1 (sameNames ▸ known)))

/-- A definition that has itself as a base type is called for a second time while it is marked, as
deep as calls can be for one name. -/
theorem self_reference_called :
    let definitions := [bareDefinition "foo.item" (some "foo.item") "item.md"]
    ∃ progress, Called (reconciled definitions) ((names definitions).length + 1) progress "foo.item"
      ∧ progress.marks "foo.item" = some .inProgress
      ∧ progress.IsConsistent (reconciled definitions)
      ∧ progress.chain.findIdx? (· == "foo.item") = some 0 := by
  intro definitions
  have isName : names (reconciled definitions) = [] ++ "foo.item" :: [] := by decide +kernel
  have isBase : knownBases (reconciled definitions) "foo.item" = [] ++ "foo.item" :: [] := by
    decide +kernel
  have isKnown : isKnown (reconciled definitions) "foo.item" = true := by decide +kernel
  have first : Called (reconciled definitions) 1 start "foo.item" :=
    @Called.outer _ _ _ _ 0 _ isName rfl
  have second : Called (reconciled definitions) 2 (start.enter "foo.item") "foo.item" :=
    @Called.inner _ _ _ _ _ _ _ 0 _ first rfl isKnown isBase rfl
  have marked : (start.enter "foo.item").marks "foo.item" = some .inProgress := by decide +kernel
  obtain ⟨consistent, -, -, -⟩ := (calls_consistent definitions).1 _ _ _ second
  exact ⟨_, second, marked, consistent, by decide +kernel⟩

end Progress

end DocAudit
