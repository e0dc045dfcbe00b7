import Hiring.Http.Route
import Hiring.Proofs.Office.Numbering
import Hiring.Proofs.Office.Requests
import Hiring.Proofs.Text.Pieces
import Hiring.Text.Percent

/-!
# Addresses of records

An identifier is put into an address as it is and taken out of it by cutting at slashes and
resolving escapes, which gives another text if it has a slash, a percent sign, or the mark of a
query in it.  The office draws its identifiers itself and uses none of these characters, so that
every record that is stored has an address.

* `Text.percentDecode?_of_not_mem` — a text without percent signs has nothing to resolve.
* `IsPlain` — an identifier that stands in an address as it is.
* `Route.ofTarget?_application`, `Route.ofTarget?_jobApplicants` — where plain identifiers lead.
* `Office.Reachable.isPlain` — **the identifiers of all stored records are plain**.
-/

set_option autoImplicit false

namespace Hiring

/-! ## Texts without percent signs -/

namespace Text

/-- The bytes are read from the first to the last. -/
theorem toList_loop (bytes : ByteArray) (i : Nat) (read : List UInt8) :
    ByteArray.toList.loop bytes i read = read.reverse ++ bytes.data.toList.drop i := by
  induction i, read using ByteArray.toList.loop.induct bytes with
  | case1 i read hi ih =>
    have hlength : i < bytes.data.toList.length := hi
    have hbyte : bytes.get! i = bytes.data.toList[i] := getElem!_pos bytes.data i hi
    rw [ByteArray.toList.loop, if_pos hi, ih, List.reverse_cons, List.append_assoc,
      List.drop_eq_getElem_cons hlength, hbyte]
    rfl
  | case2 i read hi =>
    have hlength : bytes.data.toList.length ≤ i := Nat.le_of_not_lt hi
    rw [ByteArray.toList.loop, if_neg hi, List.drop_of_length_le hlength, List.append_nil]

/-- The byte of the percent sign is in the code of no other character. -/
theorem eq_of_mem_utf8EncodeChar {c : Char} (h : (0x25 : UInt8) ∈ String.utf8EncodeChar c) :
    c = '%' := by
  have hbyte {n : Nat} (hn : (0x25 : UInt8) = UInt8.ofNat n) : n % 256 = 0x25 := by
    have hvalue := congrArg UInt8.toNat hn
    rw [UInt8.toNat_ofNat'] at hvalue
    exact hvalue.symm
  have hvalue : c.val.toNat = 0x25 := by
    unfold String.utf8EncodeChar at h
    dsimp only at h
    -- A character of one byte is the byte, and the bytes of all others are beyond ASCII.
    split at h
    · have hfirst := hbyte (List.mem_singleton.1 h)
      omega
    · split at h
      · simp only [List.mem_cons, List.not_mem_nil, or_false] at h
        rcases h with h | h <;> have := hbyte h <;> omega
      · split at h
        · simp only [List.mem_cons, List.not_mem_nil, or_false] at h
          rcases h with h | h | h <;> have := hbyte h <;> omega
        · simp only [List.mem_cons, List.not_mem_nil, or_false] at h
          rcases h with h | h | h | h <;> have := hbyte h <;> omega
  exact Char.toNat_inj.1 hvalue

/-- **A text without percent signs has nothing to resolve.** -/
theorem percentDecode?_of_not_mem {s : String} (h : '%' ∉ s.toList) :
    percentDecode? s = some s := by
  have hbytes : s.toUTF8.toList = s.toUTF8.data.toList :=
    toList_loop s.toUTF8 0 []
  have hnone : (0x25 : UInt8) ∉ s.toUTF8.data.toList := by
    intro hmem
    have hencoded : s.toUTF8 = s.toList.utf8Encode := String.utf8Encode_toList.symm
    rw [hencoded, List.utf8Encode, List.data_toByteArray, List.toList_toArray,
      List.mem_flatMap] at hmem
    obtain ⟨c, hc, hbyte⟩ := hmem
    rw [eq_of_mem_utf8EncodeChar hbyte] at hc
    exact h hc
  rw [percentDecode?, hbytes, percentBytes_of_not_mem hnone, Array.toArray_toList]
  exact dif_pos s.isValidUTF8

end Text

namespace Http

/-! ## Identifiers in addresses -/

/-- The identifier stands in an address as it is. -/
structure IsPlain (id : String) : Prop where
  notEmpty : id ≠ ""
  noSlash : '/' ∉ id.toList
  noQuery : '?' ∉ id.toList ∧ '#' ∉ id.toList
  noEscape : '%' ∉ id.toList

/-- The address of an applicant. -/
def applicantAddress (id : ApplicantId) : String := "/api/v1/applications/" ++ id

/-- The address of the applicants for a job. -/
def applicantsAddress (id : JobId) : String := "/api/v1/jobs/" ++ id ++ "/applicants"

/-- A path that begins with a slash and has no query is the whole target. -/
theorem pathOf_eq {target : String} (hslash : target.toList.head? = some '/')
    (hquery : '?' ∉ target.toList ∧ '#' ∉ target.toList) : pathOf target = target.toList := by
  have hwhole : withoutQuery target.toList = target.toList := by
    rw [withoutQuery, List.takeWhile_eq_self_iff]
    intro c hc
    rw [Bool.and_eq_true, bne_iff_ne, bne_iff_ne]
    exact ⟨fun h => hquery.1 (h ▸ hc), fun h => hquery.2 (h ▸ hc)⟩
  obtain ⟨rest, hrest⟩ := List.head?_eq_some_iff.1 hslash
  rw [pathOf, hwhole, hrest]
  rfl

variable {id : String}

/-- A text with a slash at its end, followed by another text. -/
theorem toList_append_of_slash {front front' : String} (h : front'.toList = front.toList ++ ['/'])
    (back : String) : (front' ++ back).toList = front.toList ++ '/' :: back.toList := by
  rw [String.toList_append, h, List.append_assoc, List.singleton_append]

theorem Route.ofTarget?_application (h : IsPlain id) :
    ofTarget? (applicantAddress id) = some (.application id) := by
  have hslash : "/api/v1/applications/".toList = "/api/v1/applications".toList ++ ['/'] := by
    decide +kernel
  have htarget : (applicantAddress id).toList =
      "/api/v1/applications".toList ++ '/' :: id.toList := toList_append_of_slash hslash id
  have hpath : pathOf (applicantAddress id) = (applicantAddress id).toList := by
    refine pathOf_eq ?_ ?_ <;> rw [htarget]
    · rfl
    · simp [h.noQuery]
  rw [ofTarget?, hpath, htarget, Text.pieces_append_cons, Text.pieces_of_not_mem h.noSlash,
    List.map_append, List.map_singleton, String.ofList_toList]
  exact if_neg h.notEmpty

theorem Route.ofTarget?_jobApplicants (h : IsPlain id) :
    ofTarget? (applicantsAddress id) = some (.jobApplicants id) := by
  have hslash : "/api/v1/jobs/".toList = "/api/v1/jobs".toList ++ ['/'] := by decide +kernel
  have hback : (id ++ "/applicants").toList = id.toList ++ '/' :: "applicants".toList := by
    have hliteral : "/applicants".toList = '/' :: "applicants".toList := by decide +kernel
    rw [← hliteral]
    exact String.toList_append
  have htarget : (applicantsAddress id).toList =
      "/api/v1/jobs".toList ++ '/' :: (id.toList ++ '/' :: "applicants".toList) := by
    rw [← hback, applicantsAddress, String.append_assoc]
    exact toList_append_of_slash hslash _
  have hpath : pathOf (applicantsAddress id) = (applicantsAddress id).toList := by
    refine pathOf_eq ?_ ?_ <;> rw [htarget]
    · rfl
    · simp [h.noQuery]
  rw [ofTarget?, hpath, htarget, Text.pieces_append_cons, Text.pieces_append_cons,
    Text.pieces_of_not_mem h.noSlash, List.map_append, List.map_append, List.map_singleton,
    String.ofList_toList]
  rfl

/-! ## Identifiers of records -/

/-- A number behind a plain word is a plain identifier. -/
theorem isPlain_append_padded {word : String} (hword : IsPlain word) (width n : Nat) :
    IsPlain (word ++ String.ofList (Text.padded width n)) := by
  have hchar {c : Char} (hc : Text.isDigit c = false) (hmem : c ∉ word.toList) :
      c ∉ (word ++ String.ofList (Text.padded width n)).toList := by
    rw [String.toList_append, String.toList_ofList, List.mem_append, not_or]
    refine ⟨hmem, fun hdigit => ?_⟩
    rw [Text.isDigit_of_mem_padded hdigit] at hc
    cases hc
  refine ⟨fun h => hword.notEmpty ?_, hchar (by decide) hword.noSlash,
    ⟨hchar (by decide) hword.noQuery.1, hchar (by decide) hword.noQuery.2⟩,
    hchar (by decide) hword.noEscape⟩
  exact (String.append_eq_empty_iff.1 h).1

/-- An identifier that is drawn is plain. -/
theorem isPlain_idOf (k : Counter) (n : UInt64) : IsPlain (k.idOf n) := by
  cases k with
  | jobs =>
    exact isPlain_append_padded ⟨by decide, by decide, by decide, by decide⟩ 6 n.toNat
  | applicants =>
    exact isPlain_append_padded ⟨by decide, by decide, by decide, by decide⟩ 6 n.toNat

end Http

namespace Office

open Http (IsPlain isPlain_idOf)

variable {o : Office} {time : Timestamp} {s s' : Store} {r : Request} {k : Counter} {id : String}

/-- A record that is stored under its own identifier brings in no other. -/
theorem mem_keys_put (consistent : s.Consistent) {a b : Applicant}
    (stored : s.applicants.get? id = some a) {key : ApplicantId}
    (h : key ∈ (s.put b).keys .applicants) (hid : b.id = a.id) : key ∈ s.keys .applicants := by
  rcases Keyed.mem_keys_insert.1 h with rfl | h
  · rw [hid, consistent.applicant_id stored]
    exact Keyed.mem_keys_iff.2 (Keyed.contains_of_get? stored)
  · exact h

/-- A request brings in no identifier but the one that it draws. -/
theorem Effect.keys_sub (he : o.Effect time s r s') (consistent : s.Consistent)
    (h : id ∈ s'.keys k) : id ∈ s.keys k ∨ id = k.idOf (s.next k) := by
  cases he with
  | kept => exact .inl h
  | jobRefused => exact .inl (by cases k <;> exact h)
  | applicantRefused => exact .inl (by cases k <;> exact h)
  | posted _ _ =>
    cases k with
    | jobs => exact (Keyed.mem_keys_insert.1 h).symm
    | applicants => exact .inl h
  | enrolled _ _ _ =>
    cases k with
    | jobs => exact .inl h
    | applicants => exact (Keyed.mem_keys_insert.1 h).symm
  | rescreened stored _ =>
    cases k with
    | jobs => exact .inl h
    | applicants => exact .inl (mem_keys_put consistent stored h rfl)
  | moved stored =>
    cases k with
    | jobs => exact .inl h
    | applicants => exact .inl (mem_keys_put consistent stored h rfl)

/-- **The identifiers of all stored records are plain.** -/
theorem Reachable.isPlain (reached : o.Reachable s) (h : id ∈ s.keys k) : IsPlain id := by
  have hall : s.Consistent ∧ ∀ k, ∀ id ∈ s.keys k, IsPlain id := by
    refine reached.invariant (P := fun s => s.Consistent ∧ ∀ k, ∀ id ∈ s.keys k, IsPlain id) ?_ ?_
    · refine fun nextJob nextApplicant => ⟨Store.consistent_emptyAt nextJob nextApplicant, ?_⟩
      intro k id h
      cases k <;> cases h
    · rintro time s s' r he ⟨consistent, hplain⟩
      refine ⟨he.consistent consistent, fun k id h => ?_⟩
      rcases he.keys_sub consistent h with h | rfl
      · exact hplain k id h
      · exact isPlain_idOf k (s.next k)
  exact hall.2 k id h

end Office

end Hiring
