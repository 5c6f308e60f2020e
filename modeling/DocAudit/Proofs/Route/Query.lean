import DocAudit.Proofs.Route.Canonical

/-!
# Queries and addresses

A path behind a scheme and a host is found, whatever query or fragment follows it
(`IsPath.path_address`).  But scheme and host are looked for in the whole target, and so a query may
be taken for an address.  Without a scheme, this happens if a colon and two slashes occur in the
query (`IsPath.path_append_mark`).  Without a path behind the host, it happens if a slash occurs in
the query (`behindHost_append_left`).
-/

namespace DocAudit.Route

open List Text

variable {mark : Char} {text scheme host : List Char}

/-! ## Addresses -/

/-- A target with a scheme and a host. -/
def address (scheme host rest : List Char) : List Char :=
  scheme ++ ("://".toList ++ (host ++ rest))

/-- The path behind a host, up to the end of the target. -/
def behindHost (rest : List Char) : List Char :=
  match cutFirst '/' rest with
  | some (_, path) => '/' :: path
  | none => ['/']

lemma behindHost_append (noSlash : '/' ∉ host) (after : List Char) :
    behindHost (host ++ '/' :: after) = '/' :: after := by
  rw [behindHost, cutFirst_append noSlash]

/-- What has no slash belongs to the host. -/
lemma behindHost_append_left (noSlash : '/' ∉ host) (rest : List Char) :
    behindHost (host ++ rest) = behindHost rest := by
  by_cases mem : '/' ∈ rest
  · obtain ⟨before, after, rfl, absent⟩ := eq_append_cons_of_mem mem
    rw [← append_assoc, behindHost_append absent, behindHost_append (by simp [noSlash, absent])]
  · rw [behindHost, behindHost, cutFirst_eq_none mem, cutFirst_eq_none (by simp [noSlash, mem])]

lemma path_of_scheme {rest : List Char} (cut : cutAround "://".toList text = some (scheme, rest)) :
    path text = (behindHost rest).takeWhile isOfPath := by
  rw [path, cut]
  rfl

lemma path_address (noColon : ':' ∉ scheme) (noSlash : '/' ∉ host) (rest : List Char) :
    path (address scheme host rest) = (behindHost rest).takeWhile isOfPath := by
  have cut : cutAround "://".toList (address scheme host rest) = some (scheme, host ++ rest) :=
    cutAround_append noColon _ _
  rw [path_of_scheme cut, behindHost_append_left noSlash]

lemma slash_not_mem (isMark : isOfPath mark = false) : '/' ∉ [mark] := by
  rw [mem_singleton]
  rintro rfl
  cases isMark

namespace IsPath

/-- A path ends where a query or a fragment starts. -/
lemma takeWhile_append (h : IsPath text) {rest : List Char}
    (isRest : ∀ mark ∈ rest.head?, isOfPath mark = false) :
    (text ++ rest).takeWhile isOfPath = text := by
  rw [takeWhile_append_of_pos h.plain]
  cases rest with
  | nil => exact append_nil text
  | cons mark query =>
      have isMark := isRest mark rfl
      rw [takeWhile_cons_of_neg (by simp [isMark]), append_nil]

/-- The path behind a scheme and a host, whatever follows. -/
lemma path_address (h : IsPath text) (starts : text.head? = some '/') (noColon : ':' ∉ scheme)
    (noSlash : '/' ∉ host)
    (rest : List Char) (isRest : ∀ mark ∈ rest.head?, isOfPath mark = false) :
    path (address scheme host (text ++ rest)) = text := by
  obtain ⟨more, rfl⟩ := head?_eq_some_iff.1 starts
  have slash : behindHost ('/' :: (more ++ rest)) = '/' :: (more ++ rest) :=
    behindHost_append not_mem_nil _
  rw [Route.path_address noColon noSlash, cons_append, slash, ← cons_append,
    h.takeWhile_append isRest]

/-- A query with a colon and two slashes in it is taken for an address. -/
lemma path_append_mark (h : IsPath text) (isMark : isOfPath mark = false) (query : List Char) :
    path (text ++ mark :: query) =
      match cutAround "://".toList query with
      | some (_, rest) => path (address [] [] rest)
      | none => text := by
  have other : mark ∉ "://".toList := by
    have ofPath : "://".toList.all isOfPath = true := by decide
    intro mem
    rw [all_eq_true.1 ofPath mark mem] at isMark
    cases isMark
  have cut := cutAround_append_cons h.noScheme other query
  cases found : cutAround "://".toList query with
  | some pieces =>
      rw [found] at cut
      rw [path_of_scheme cut]
      exact (Route.path_address not_mem_nil not_mem_nil pieces.2).symm
  | none =>
      rw [found, Option.map_none, cutAround_eq_none_iff] at cut
      rw [path_of_noScheme cut, h.takeWhile_append (by simpa using isMark)]

end IsPath

/-! ## Routes -/

lemma ofTarget_congr {other : List Char} (same : path text = path other) :
    ofTarget (.ofList text) = ofTarget (.ofList other) := by
  simp only [ofTarget, parts, String.toList_ofList, same]

/-- The route is a single slash only if there is nothing else in the path. -/
lemma ofTarget_eq_root_iff {target : String} :
    ofTarget target = "/" ↔ ∀ c ∈ path target.toList, c = '/' := by
  have isRoot : ofTarget target = "/" ↔ parts target = [] := by
    constructor
    · intro root
      have written := toList_ofTarget target
      by_contra nonempty
      rw [root, cons_join nonempty] at written
      obtain ⟨first, more, isParts⟩ := exists_cons_of_ne_nil nonempty
      have firstSome :=
        (isRoutePart_of_mem (isParts ▸ mem_cons_self : first ∈ parts target)).nonempty
      rw [isParts, flatMap_cons, cons_append] at written
      have behind : [] = first ++ more.flatMap ('/' :: ·) := (cons.inj written).2
      exact firstSome (append_eq_nil_iff.1 behind.symm).1
    · intro empty
      rw [ofTarget, empty]
      rfl
  rw [isRoot, parts, map_eq_nil_iff, wordsBy_eq_nil_iff]
  simp only [beq_iff_eq]

lemma ofTarget_append_mark_iff (h : IsPath text) (isMark : isOfPath mark = false)
    (query : List Char) :
    ofTarget (.ofList (text ++ mark :: query)) = ofTarget (.ofList text) ↔
      ∀ before rest, cutAround "://".toList query = some (before, rest) →
        ofTarget (.ofList (address [] [] rest)) = ofTarget (.ofList text) := by
  have found := h.path_append_mark isMark query
  cases cut : cutAround "://".toList query with
  | none =>
      rw [cut] at found
      exact iff_of_true (ofTarget_congr (found.trans h.path_eq.symm))
        (fun _ _ isCut => nomatch isCut)
  | some pieces =>
      rw [cut] at found
      rw [ofTarget_congr found]
      constructor
      · rintro ignored before rest ⟨⟩
        exact ignored
      · exact fun ignored => ignored _ _ rfl

lemma ofTarget_host_append_mark_iff (noColon : ':' ∉ scheme) (noSlash : '/' ∉ host)
    (isMark : isOfPath mark = false) (query : List Char) :
    ofTarget (.ofList (address scheme host (mark :: query))) = "/" ↔
      ∀ before after, cutFirst '/' query = some (before, after) →
        ∀ c ∈ after.takeWhile isOfPath, c = '/' := by
  have found := path_address noColon noSlash (mark :: query)
  have skipped := behindHost_append_left (slash_not_mem isMark) query
  rw [singleton_append] at skipped
  rw [ofTarget_eq_root_iff, String.toList_ofList, found, skipped, behindHost]
  have slash : isOfPath '/' = true := by decide
  cases cutFirst '/' query with
  | none => simp [slash]
  | some pieces => simp [slash, Prod.ext_iff]

/-- **Which queries and fragments a route ignores.**

* Behind a scheme, a host and a path, a route ignores all of them.
* Behind a path alone, it ignores one unless a colon and two slashes occur in it, and what follows
  them has another route, as an address.
* Behind a scheme and a host alone, it ignores one unless a slash occurs in it, and there are other
  characters than slashes between the first one and the end of a path. -/
theorem route_ignores_query_iff (isPath : IsPath text) (starts : text.head? = some '/')
    (noColon : ':' ∉ scheme)
    (noSlash : '/' ∉ host) (isMark : mark = '?' ∨ mark = '#') (query : List Char) :
    ofTarget (.ofList (address scheme host text)) = ofTarget (.ofList text)
      ∧ ofTarget (.ofList (address scheme host (text ++ mark :: query))) = ofTarget (.ofList text)
      ∧ (ofTarget (.ofList (text ++ mark :: query)) = ofTarget (.ofList text) ↔
        ∀ before rest, cutAround "://".toList query = some (before, rest) →
          ofTarget (.ofList (address [] [] rest)) = ofTarget (.ofList text))
      ∧ (ofTarget (.ofList (address scheme host (mark :: query))) = "/" ↔
        ∀ before after, cutFirst '/' query = some (before, after) →
          ∀ c ∈ after.takeWhile isOfPath, c = '/') := by
  have isEnd : isOfPath mark = false := by
    rcases isMark with rfl | rfl <;> decide
  have alone := isPath.path_address starts noColon noSlash [] (by simp)
  have followed := isPath.path_address starts noColon noSlash (mark :: query) (by simpa using isEnd)
  rw [append_nil] at alone
  exact ⟨ofTarget_congr (alone.trans isPath.path_eq.symm),
    ofTarget_congr (followed.trans isPath.path_eq.symm),
    ofTarget_append_mark_iff isPath isEnd query,
      ofTarget_host_append_mark_iff noColon noSlash isEnd query⟩

/-- An address in a query is taken for the target, and a path in a query for the one behind the
host. -/
theorem address_in_query_not_ignored :
    ofTarget "/a" = "/a" ∧ ofTarget "/a?u=http://b/c" = "/c"
      ∧ ofTarget "https://h?next=/home" = "/home" := by
  decide +kernel

/-- A query that selects a column has no influence on the route to a drive. -/
theorem selection_ignored :
    IsPath "/me/drive".toList ∧ ofTarget "https://graph/me/drive?$select=id" = ofTarget "/me/drive"
      ∧ ofTarget "/me/drive?$select=id" = ofTarget "/me/drive"
        ∧ ofTarget "https://graph?$select=id" = "/" := by
  have isPath : IsPath "/me/drive".toList :=
    ⟨all_eq_true.1 (by decide), cutAround_eq_none_iff.1 (by decide)⟩
  have noColon : ':' ∉ "https".toList := by decide
  have noSlash : '/' ∉ "graph".toList := by decide
  obtain ⟨-, behindHost, alone, noPath⟩ :=
    route_ignores_query_iff isPath (by decide) noColon noSlash (.inl rfl) "$select=id".toList
  have noAddress : cutAround "://".toList "$select=id".toList = none := by decide
  have noStart : cutFirst '/' "$select=id".toList = none := by decide
  rw [noAddress] at alone
  rw [noStart] at noPath
  exact ⟨isPath, behindHost, alone.2 (by simp), noPath.2 (by simp)⟩

end DocAudit.Route
