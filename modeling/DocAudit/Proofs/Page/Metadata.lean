import DocAudit.Page.Metadata
import DocAudit.Proofs.Record

/-!
# What metadata says

A record in a comment is written as an object or as an array.  In an object, a field is the only
member with one of its names (`Json.Written.onlyMember?_eq_some_iff`); a record that gives one field
twice is not read at all.  The role and the names of a block are what the first fields of its
metadata give (`CodeMetadata.exists_of_read?`), and neither has a value of its own where its field
is missing.
-/

namespace DocAudit

open List Json

/-- A field of an object is the only member with one of its names, or is missing if there is
none. -/
lemma Json.Written.onlyMember?_eq_some_iff {names : List String} {members : List (String × Written)}
    {value? : Option Written} : onlyMember? names members = some value?
      ↔ (members.filter fun member => names.contains member.1).map (·.2) = value?.toList := by
  unfold onlyMember?
  split
  · next absent =>
      rw [absent]
      cases value? <;> simp
  · next name value only =>
      rw [only]
      cases value? <;> simp
  · next several more =>
      match found : members.filter fun member => names.contains member.1 with
      | [] => exact absurd found several
      | [(name, value)] => exact absurd found (more name value)
      | first :: second :: rest =>
          rw [found, map_cons, map_cons]
          cases value? <;> simp

namespace CodeMetadata

variable {comment : String} {metadata : CodeMetadata}

/-- Metadata has the role, the type and the names that its first fields give. -/
lemma exists_of_read? (isRead : read? comment = some metadata) :
    ∃ written role type names rest, Written.read? (commentText comment) = some written
      ∧ written.fields? fieldNames = some (role :: type :: names :: rest)
      ∧ role.elim (some none) Written.optionalText? = some metadata.role
      ∧ type.elim (some none) Written.optionalText? = some metadata.resourceType
      ∧ names.elim (some []) (Written.textsOr? singleName) = some metadata.names := by
  unfold read? Written.readFields? at isRead
  simp only [Option.bind_eq_bind, Option.bind_eq_some_iff] at isRead
  obtain ⟨written, isText, fields, isRecord, isRead⟩ := isRead
  simp only [reader, FieldReader.run'_field_eq_some_iff] at isRead
  obtain ⟨role, _, _, rfl, isRole, type, _, _, rfl, isType, names, rest, _, rfl, areNames, later⟩ :=
    isRead
  -- the other twelve fields are read behind these three, four at a time
  obtain ⟨_, _, _, rfl, -, _, _, _, rfl, -, _, _, _, rfl, -, _, _, _, rfl, -, later⟩ := later
  obtain ⟨_, _, _, rfl, -, _, _, _, rfl, -, _, _, _, rfl, -, _, _, _, rfl, -, later⟩ := later
  obtain ⟨_, _, _, rfl, -, _, _, _, rfl, -, _, _, _, rfl, -, _, _, _, rfl, -, isMetadata⟩ := later
  obtain rfl := Option.some.inj isMetadata
  exact ⟨written, role, type, names, _, isText, isRecord, isRole, isType, areNames⟩

example : (read? "<!-- \x7b \"blockType\": \"response\", \"methodName\": \"list\" \x7d -->").map
    (fun metadata => (metadata.role?, metadata.names)) = some (some .response, ["list"]) := by
  decide +kernel

end CodeMetadata

end DocAudit
