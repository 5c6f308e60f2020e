import DocAudit.Proofs.Parameter

/-!
# Joined lists, name by name

Rows are joined with a list one after the other, while the list grows: a row may meet an entry that
an earlier row has added.  Still every name is on its own.  A row changes the entry of its name only
(`find?_mergeInto`), so what the entry of a name says in the end are the descriptions with this
name, joined in their order (`find?_mergeLists`).  The first of them is the entry of the list, or
the first row if the list has none.

Joining from left to right is a fold, so rows may come in several parts (`mergeLists_append`), and
what was joined already may stand for its descriptions (`joined_append`).
-/

namespace DocAudit.Parameter

open List

variable {row : Parameter} {known rows : List Parameter} {names : List String} {name : String}

/-! ## Part by part -/

/-- Joining rows in two parts is joining all of them. -/
lemma mergeLists_append (known rows more : List Parameter) :
    mergeLists known (rows ++ more) = mergeLists known rows >>= fun merged =>
      mergeLists merged more :=
  foldlM_append

/-! ## Descriptions with a name -/

/-- Several descriptions of a parameter, joined from left to right. -/
def joined : List Parameter → Option Parameter
  | [] => none
  | first :: rest => some (rest.foldl (fun known row => (known.merge row).value) first)

lemma joined_toList (entry : Option Parameter) : joined entry.toList = entry := by
  cases entry with
  | none => rfl
  | some parameter => rfl

/-- What was joined already stands for its descriptions. -/
lemma joined_append (first more : List Parameter) :
    joined ((joined first).toList ++ more) = joined (first ++ more) := by
  cases first with
  | nil => rfl
  | cons parameter rest =>
      rw [joined, Option.toList_some, singleton_append, cons_append, joined, joined, foldl_append]

/-- In a list without repeated names, the entry of a name is the only one with the name. -/
lemma filter_name_of_nodup (distinct : (known.map (·.name)).Nodup) (name : String) :
    known.filter (·.name == name) = (known.find? (·.name == name)).toList := by
  induction known with
  | nil => rfl
  | cons first rest ih =>
      obtain ⟨new, distinct⟩ := nodup_cons.1 distinct
      by_cases same : first.name = name
      · have others : rest.filter (·.name == name) = [] := by
          refine filter_eq_nil_iff.2 fun parameter mem named => new ?_
          exact mem_map.2 ⟨parameter, mem, (eq_of_beq named).trans same.symm⟩
        rw [filter_cons_of_pos (by simpa using same), find?_cons_of_pos (by simpa using same),
          others, Option.toList_some]
      · rw [filter_cons_of_neg (by simpa using same),
          find?_cons_of_neg (by simpa using same), ih distinct]

/-- A row is joined with the entry of its name, and changes no other entry. -/
lemma find?_mergeInto (row : Parameter) (known : List Parameter) (name : String) :
    (row.mergeInto known).value.find? (·.name == name)
      = joined ((known.find? (·.name == name)).toList ++ [row].filter (·.name == name)) := by
  induction known with
  | nil =>
      rw [mergeInto, Audit.value_pure, find?_nil, Option.toList_none, nil_append]
      by_cases here : row.name = name <;> simp [joined, here]
  | cons first rest ih =>
      rw [mergeInto]
      by_cases here : first.name = name
      · have isFirst : (first :: rest).find? (·.name == name) = some first :=
          find?_cons_of_pos (by simpa using here)
        rw [isFirst]
        by_cases same : first.name = row.name
        · rw [if_pos same, Audit.value_bind, Audit.value_pure]
          have joins : ((first.merge row).value :: rest).find? (·.name == name)
              = some (first.merge row).value :=
            find?_cons_of_pos (by simpa [name_merge] using here)
          rw [joins, filter_cons_of_pos (by simpa [← same] using here)]
          rfl
        · rw [if_neg same, Audit.value_bind, Audit.value_pure,
            find?_cons_of_pos (by simpa using here),
            filter_cons_of_neg (by simpa [← here] using Ne.symm same)]
          rfl
      · have notFirst : (first :: rest).find? (·.name == name) = rest.find? (·.name == name) :=
          find?_cons_of_neg (by simpa using here)
        rw [notFirst]
        by_cases same : first.name = row.name
        · rw [if_pos same, Audit.value_bind, Audit.value_pure,
            find?_cons_of_neg (by simpa [name_merge] using here),
            filter_cons_of_neg (by simpa [← same] using here), filter_nil, append_nil,
            joined_toList]
        · rw [if_neg same, Audit.value_bind, Audit.value_pure,
            find?_cons_of_neg (by simpa using here), ih]

/-- The entry of a name is joined with the rows of the name in their order. -/
lemma find?_mergeLists (known rows : List Parameter) (name : String) :
    (mergeLists known rows).value.find? (·.name == name)
      = joined ((known.find? (·.name == name)).toList ++ rows.filter (·.name == name)) := by
  induction rows generalizing known with
  | nil => rw [filter_nil, append_nil, joined_toList, mergeLists, foldlM_nil, Audit.value_pure]
  | cons row rest ih =>
      have step : (mergeLists known (row :: rest)).value
          = (mergeLists (row.mergeInto known).value rest).value :=
        rfl
      rw [step, ih, find?_mergeInto, joined_append, append_assoc, ← filter_append, singleton_append]

/-! ## Names -/

/-- The names of newcomers are the new names of rows, each where it comes first. -/
lemma map_name_newcomers (names : List String) (rows : List Parameter) :
    (newcomers names rows).map (·.name) = ((rows.map (·.name)).filter (· ∉ names)).eraseDups := by
  induction rows generalizing names with
  | nil => rfl
  | cons row rest ih =>
      rw [map_cons]
      by_cases old : row.name ∈ names
      · rw [newcomers_cons_of_mem old, ih, filter_cons_of_neg (by simpa using old)]
      · rw [newcomers_cons_of_not_mem old, map_cons, ih, filter_cons_of_pos (by simpa using old),
          eraseDups_cons, filter_filter]
        congr 3
        funext other
        by_cases same : other = row.name <;> simp [same]

/-- **Lists are joined name by name**, whatever names the rows repeat.  The list that they are
joined with has no name twice.

* Joining rows in two parts gives the same list as joining all of them, and the findings of the
  second part come behind those of the first one.
* The names are those of the list in their order, and behind them the new names of the rows in the
  order in which they come first; no name occurs twice.
* The entry of a name is what all its descriptions say, joined from left to right: the one in the
  list, if there is one, and those of the rows. -/
theorem mergeLists_by_name (known rows more : List Parameter)
    (distinct : (known.map (·.name)).Nodup) :
    let merged := mergeLists known rows
    let whole := mergeLists known (rows ++ more)
    let names := merged.value.map (·.name)
    (whole.value = (mergeLists merged.value more).value
      ∧ whole.issues = merged.issues ++ (mergeLists merged.value more).issues)
    ∧ (names = known.map (·.name) ++ ((rows.map (·.name)).filter (· ∉ known.map (·.name))).eraseDups
      ∧ names.Nodup)
    ∧ ∀ name, merged.value.find? (·.name == name)
      = joined ((known ++ rows).filter (·.name == name)) := by
  intro merged whole names
  have parts : whole = merged >>= fun merged => mergeLists merged more :=
    mergeLists_append known rows more
  refine ⟨⟨?_, ?_⟩, ⟨?_, nodup_map_name_mergeLists distinct rows⟩, fun name => ?_⟩
  · rw [parts, Audit.value_bind]
  · rw [parts, Audit.issues_bind]
  · rw [← map_name_newcomers]
    exact map_name_mergeLists known rows
  · rw [filter_append, filter_name_of_nodup distinct]
    exact find?_mergeLists known rows name

/-- Two rows about one new name, and between them a row about a name of the list. -/
def sizeRows : List Parameter :=
  [.ofType "size" (.simple .int64) .jsonObject, .ofType "id" .untyped .jsonObject,
   .ofType "size" (.simple .int32) .jsonObject]

/-- The second row about the new name is joined with the first one, which says less. -/
theorem sizeRows_joined :
    let known : List Parameter := [.ofType "id" .string .jsonObject]
    let merged := mergeLists known sizeRows
    (known.map (·.name)).Nodup ∧ merged.value.map (·.name) = ["id", "size"]
      ∧ (merged.value.find? (·.name == "size")).map (·.type.text) = some "Int32"
      ∧ (mergeLists known (sizeRows ++ sizeRows)).issues
        = merged.issues ++ (mergeLists merged.value sizeRows).issues := by
  intro known merged
  have distinct : (known.map (·.name)).Nodup := by decide
  obtain ⟨⟨-, issues⟩, ⟨names, -⟩, entries⟩ := mergeLists_by_name known sizeRows sizeRows distinct
  refine ⟨distinct, names.trans (by decide), ?_, issues⟩
  rw [entries "size"]
  rfl

end DocAudit.Parameter
