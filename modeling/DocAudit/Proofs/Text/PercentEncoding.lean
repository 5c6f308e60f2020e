import DocAudit.Proofs.Text.Lowercase
import DocAudit.Text.PercentEncoding
import Mathlib.Data.List.Basic

/-!
# Percent-encoded texts

`StandsFor` says which bytes a text stands for: those that its escapes name, and the bytes of all
other characters.  Every text stands for some bytes and for no others (`standsFor_iff`).  Decoding
finds the characters with these bytes if there are any, and leaves the text as it is otherwise
(`StandsFor.percentDecode_eq`, `StandsFor.percentDecode_eq_self`).

However the characters of a text are written, the result stands for the bytes of these characters,
as long as percent signs are escaped (`standsFor_flatMap_write`).  So the text is read back
(`percentDecode_reads_back`).  A text without percent signs stands for its own characters
(`percentDecode_eq_self`).
-/

namespace DocAudit.Text

open List

/-! ## Escapes -/

/-- The hexadecimal digit with a value; letters may have either case. -/
def hexDigit (upper : Bool) (value : ℕ) : Char :=
  (if upper then "0123456789ABCDEF" else "0123456789abcdef").toList.getD value '0'

/-- The escape of a byte, where each of the two digits may have either case. -/
def escape (upper : Bool × Bool) (byte : UInt8) : List Char :=
  ['%', hexDigit upper.1 (byte.toNat / 16), hexDigit upper.2 (byte.toNat % 16)]

/-- A text stands for bytes: an escape for the byte that it names, and a character that starts no
escape for the bytes that encode it. -/
inductive StandsFor : List Char → List UInt8 → Prop
  | nil : StandsFor [] []
  | escape {text bytes} (upper : Bool × Bool) (byte : UInt8) (rest : StandsFor text bytes) :
      StandsFor (escape upper byte ++ text) (byte :: bytes)
  | char {text bytes c} (plain : ∀ upper byte, ¬ escape upper byte <+: c :: text)
      (rest : StandsFor text bytes) :
      StandsFor (c :: text) (String.utf8EncodeChar c ++ bytes)

/-- How a character is written: by itself, or as the escapes of its bytes, each with the case of its
digits. -/
inductive Spelling where
  | plain
  | escaped (upper : ℕ → Bool × Bool)

/-- The character written in some way. -/
def Spelling.write (c : Char) : Spelling → List Char
  | plain => [c]
  | escaped upper => (String.utf8EncodeChar c).zipIdx.flatMap fun (byte, position) =>
    escape (upper position) byte

variable {text : List Char} {bytes : List UInt8} {c high low : Char} {h l value : ℕ}

lemma hexValue?_hexDigit (upper : Bool) (small : value < 16) :
    hexValue? (hexDigit upper value) = some value := by
  have all : ∀ upper, ∀ value < 16, hexValue? (hexDigit upper value) = some value := by decide
  exact all upper value small

lemma toNat_lt_of_hexValue? (isDigit : hexValue? c = some value) : c.toNat < 0x80 := by
  simp only [hexValue?, Bool.and_eq_true, decide_eq_true_iff, Char.le_def,
    UInt32.le_iff_toNat_le] at isDigit
  -- the last digits of the three ranges, as numbers
  have decimal : '9'.val.toNat = 0x39 := rfl
  have lower : 'f'.val.toNat = 0x66 := rfl
  have upper : 'F'.val.toNat = 0x46 := rfl
  change c.val.toNat < 0x80
  split at isDigit
  · omega
  · split at isDigit
    · omega
    · split at isDigit
      · omega
      · cases isDigit

/-- No other characters have a value than the digits in either case. -/
lemma exists_hexDigit (isDigit : hexValue? c = some value) :
    value < 16 ∧ ∃ upper, hexDigit upper value = c := by
  have all : ∀ n < 0x80, ∀ value ∈ hexValue? (Char.ofNat n),
      value < 16 ∧ ∃ upper, hexDigit upper value = Char.ofNat n := by
    decide +kernel
  exact forall_ascii (fun c => ∀ value ∈ hexValue? c, value < 16
    ∧ ∃ upper, hexDigit upper value = c) all
    (toNat_lt_of_hexValue? isDigit) value isDigit

/-- Two digits behind a percent sign are an escape. -/
lemma exists_escape (isHigh : hexValue? high = some h) (isLow : hexValue? low = some l) :
    ∃ upper, escape upper (UInt8.ofNat (16 * h + l)) = ['%', high, low] := by
  obtain ⟨smallHigh, upperHigh, rfl⟩ := exists_hexDigit isHigh
  obtain ⟨smallLow, upperLow, rfl⟩ := exists_hexDigit isLow
  have byte : (UInt8.ofNat (16 * h + l)).toNat = 16 * h + l :=
    UInt8.toNat_ofNat_of_lt' (show 16 * h + l < 256 by omega)
  refine ⟨(upperHigh, upperLow), ?_⟩
  rw [escape, byte, show (16 * h + l) / 16 = h by omega, show (16 * h + l) % 16 = l by omega]

/-- Nothing else is an escape. -/
lemma exists_digits {upper : Bool × Bool} {byte : UInt8} (starts : escape upper byte <+: text) :
    ∃ high low rest h l, text = '%' :: high :: low :: rest ∧ hexValue? high = some h
      ∧ hexValue? low = some l := by
  obtain ⟨rest, rfl⟩ := starts
  have small := byte.toNat_lt
  exact ⟨_, _, rest, _, _, rfl, hexValue?_hexDigit _ (show byte.toNat / 16 < 16 by omega),
    hexValue?_hexDigit _ (show byte.toNat % 16 < 16 by omega)⟩

/-! ## The bytes of a text -/

lemma percentBytes_escape (upper : Bool × Bool) (byte : UInt8) (text : List Char) :
    percentBytes (escape upper byte ++ text) = byte :: percentBytes text := by
  have small := byte.toNat_lt
  simp only [escape, cons_append, nil_append, percentBytes,
    hexValue?_hexDigit _ (show byte.toNat / 16 < 16 by omega),
    hexValue?_hexDigit _ (show byte.toNat % 16 < 16 by omega)]
  rw [show 16 * (byte.toNat / 16) + byte.toNat % 16 = byte.toNat by omega, UInt8.ofNat_toNat]

lemma percentBytes_cons (plain : ∀ upper byte, ¬ escape upper byte <+: c :: text) :
    percentBytes (c :: text) = String.utf8EncodeChar c ++ percentBytes text := by
  generalize whole : c :: text = given at plain ⊢
  fun_cases percentBytes given with
  | case1 => cases whole
  | case2 high low rest h l isLow isHigh =>
      obtain ⟨upper, same⟩ := exists_escape isHigh isLow
      refine absurd ?_ (plain upper (UInt8.ofNat (16 * h + l)))
      rw [same]
      exact prefix_append _ rest
  | case3 high low rest =>
      cases whole
      rfl
  | case4 c rest =>
      cases whole
      rfl

lemma standsFor_percentBytes (text : List Char) : StandsFor text (percentBytes text) := by
  fun_induction percentBytes text with
  | case1 => exact .nil
  | case2 high low rest h l isLow isHigh ih =>
      obtain ⟨upper, same⟩ := exists_escape isHigh isLow
      have escaped := StandsFor.escape upper (UInt8.ofNat (16 * h + l)) ih
      rwa [same] at escaped
  | case3 high low rest noEscape ih =>
      refine .char (c := '%') (fun upper byte starts => ?_) ih
      obtain ⟨_, _, _, h, l, same, isHigh, isLow⟩ := exists_digits starts
      cases same
      exact noEscape h l isHigh isLow
  | case4 c rest noEscape ih =>
      refine .char (fun upper byte starts => ?_) ih
      obtain ⟨_, _, _, _, _, same, -, -⟩ := exists_digits starts
      cases same
      exact noEscape _ _ _ rfl rfl

/-- A text stands for its bytes, and for no others. -/
lemma standsFor_iff : StandsFor text bytes ↔ percentBytes text = bytes := by
  constructor
  · intro stands
    induction stands with
    | nil => rfl
    | escape upper byte _ ih => rw [percentBytes_escape, ih]
    | char plain _ ih => rw [percentBytes_cons plain, ih]
  · rintro rfl
    exact standsFor_percentBytes text

/-! ## Decoding -/

/-- Characters are read back from their bytes. -/
lemma fromUTF8?_flatMap (text : List Char) :
    String.fromUTF8? (text.flatMap String.utf8EncodeChar).toByteArray = some (.ofList text) :=
  dif_pos ⟨text, rfl⟩

lemma StandsFor.percentDecode_eq {decoded : List Char}
    (h : StandsFor text (decoded.flatMap String.utf8EncodeChar)) :
    percentDecode text = decoded := by
  rw [percentDecode, standsFor_iff.1 h, fromUTF8?_flatMap]
  exact String.toList_ofList

/-- A text that stands for no characters is left as it is. -/
lemma StandsFor.percentDecode_eq_self (h : StandsFor text bytes)
    (invalid : ¬ bytes.toByteArray.IsValidUTF8) :
    percentDecode text = text := by
  have rejected : String.fromUTF8? bytes.toByteArray = none := dif_neg invalid
  rw [percentDecode, standsFor_iff.1 h, rejected]

/-! ## Writing -/

lemma standsFor_escapes (upper : ℕ → Bool × Bool) (start : ℕ) (written : List UInt8)
    (rest : StandsFor text bytes) :
    StandsFor ((written.zipIdx start).flatMap (fun (byte, position) =>
      escape (upper position) byte) ++ text)
      (written ++ bytes) := by
  induction written generalizing start with
  | nil => exact rest
  | cons byte more ih =>
      rw [zipIdx_cons, flatMap_cons, append_assoc, cons_append]
      exact .escape _ byte (ih (start + 1))

/-- A character is written as something that stands for it, whatever stands behind it. -/
lemma standsFor_write {spelling : Spelling} (marked : (c, spelling) ≠ ('%', .plain))
    (rest : StandsFor text bytes) :
    StandsFor (spelling.write c ++ text) (String.utf8EncodeChar c ++ bytes) := by
  cases spelling with
  | escaped upper => exact standsFor_escapes upper 0 _ rest
  | plain =>
      refine .char (fun upper byte starts => ?_) rest
      obtain ⟨_, _, _, _, _, same, -, -⟩ := exists_digits starts
      cases same
      exact marked rfl

lemma standsFor_flatMap_write {spelled : List (Char × Spelling)}
    (marked : ('%', .plain) ∉ spelled) :
    StandsFor (spelled.flatMap fun (c, spelling) => spelling.write c)
      ((spelled.map (·.1)).flatMap String.utf8EncodeChar) := by
  induction spelled with
  | nil => exact .nil
  | cons first rest ih =>
      rw [mem_cons, not_or] at marked
      rw [flatMap_cons, map_cons, flatMap_cons]
      exact standsFor_write (Ne.symm marked.1) (ih marked.2)

/-- A text without percent signs stands for itself. -/
theorem percentDecode_eq_self (absent : '%' ∉ text) : percentDecode text = text := by
  have marked : ('%', Spelling.plain) ∉ text.map (·, Spelling.plain) := by simpa using absent
  have written := standsFor_flatMap_write marked
  have texts : text.flatMap (fun c => [c]) = text := flatMap_singleton' text
  rw [map_map, flatMap_map] at written
  exact StandsFor.percentDecode_eq
    (by simpa [Function.comp_def, Spelling.write, texts] using written)

/-- **Percent escapes are read back.**

* A text may be written with any of its characters as the escapes of their bytes, with digits of
  either case, and the others by themselves.  If no percent sign stands by itself, decoding gives
  the text.
* Every text stands for the bytes that its escapes name, together with those of its other
  characters.  If these bytes encode characters, decoding gives the characters, and else the text as
  it is. -/
theorem percentDecode_reads_back :
    (∀ spelled : List (Char × Spelling), ('%', .plain) ∉ spelled →
        percentDecode (spelled.flatMap fun (c, spelling) => spelling.write c) = spelled.map (·.1))
      ∧ (∀ text, ∃! bytes, StandsFor text bytes)
      ∧ ∀ text bytes, StandsFor text bytes →
        (∀ decoded : List Char, decoded.flatMap String.utf8EncodeChar = bytes →
          percentDecode text = decoded)
          ∧ (¬ bytes.toByteArray.IsValidUTF8 → percentDecode text = text) := by
  refine ⟨fun spelled marked => (standsFor_flatMap_write marked).percentDecode_eq, fun text => ?_,
    fun text bytes stands => ⟨?_, stands.percentDecode_eq_self⟩⟩
  · exact ⟨percentBytes text, standsFor_percentBytes text, fun bytes stands =>
      (standsFor_iff.1 stands).symm⟩
  · rintro decoded rfl
    exact stands.percentDecode_eq

/-- A name with an escaped percent sign is read back, and an escape of half a character is left as
it is. -/
theorem discount_read_back :
    let spelled : List (Char × Spelling) :=
      [('é', .escaped fun _ => (true, false)), ('€', .plain),
        ('%', .escaped fun _ => (false, false)), ('5', .plain)]
    ('%', .plain) ∉ spelled
      ∧ spelled.flatMap (fun (c, spelling) => spelling.write c) = "%C3%A9€%255".toList
      ∧ percentDecode "%C3%A9€%255".toList = "é€%5".toList
      ∧ StandsFor "%c3%".toList [0xC3, 0x25] ∧ ¬ [0xC3, 0x25].toByteArray.IsValidUTF8
      ∧ percentDecode "%c3%".toList = "%c3%".toList := by
  intro spelled
  have marked : ('%', .plain) ∉ spelled := by simp [spelled]
  have written : spelled.flatMap (fun (c, spelling) => spelling.write c)
      = "%C3%A9€%255".toList := by decide +kernel
  have stands : StandsFor "%c3%".toList [0xC3, 0x25] := standsFor_iff.2 (by decide +kernel)
  have invalid : ¬ [0xC3, 0x25].toByteArray.IsValidUTF8 := by decide
  have readBack := percentDecode_reads_back.1 spelled marked
  rw [written] at readBack
  exact ⟨marked, written, readBack, stands, invalid,
    (percentDecode_reads_back.2.2 _ _ stands).2 invalid⟩

end DocAudit.Text
