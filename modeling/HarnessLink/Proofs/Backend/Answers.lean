import HarnessLink.Backend.Response
import HarnessLink.Proofs.Json.Texts

/-!
# Answers read back

The text of an answer to the backend spells that answer. Parts that are left out when it is written
are the ones that are filled in when it is read.
-/
namespace HarnessLink

open Json

namespace ResponseResult

/-- A field that is read for the first time. -/
theorem once_written {read : List Char → Except Stop (α × List Char)} {text : List Char} {a : α}
    (h : Reads read text a) (name : String) {rest : List Char} (hrest : Delimited rest) :
    once name none read (':' :: (text ++ rest)) = .ok (some a, rest) := by
  have hcolon : readColon (':' :: (text ++ rest)) = .ok (text ++ rest) := rfl
  simp only [once, hcolon, bind, Except.bind, h rest hrest]
  rfl

/-- What has been read of a result when all its fields have. -/
def draft (r : ResponseResult) : Draft where
  instruction? := some r.instruction
  failed? := if r.failed.isEmpty then none else some r.failed
  mode? := r.mode?.map some
  control? := r.control?.map some
  error? := r.error?.map some

/-- The fields of a result are read one after the other. -/
theorem exists_fills (r : ResponseResult) :
    ∃ fields, r.json = .object fields ∧ Fills readField fields {} r.draft := by
  have hinstruction : Fills readField [("inst", .string r.instruction)] {}
      { instruction? := some r.instruction } := by
    refine .cons (fun rest hrest => ?_) (.nil _)
    simp only [readField, chars_string, once_written (reads_text r.instruction) _ hrest]
    rfl
  have hfailed : Fills readField
      (if r.failed.isEmpty then [] else [("id", .array (r.failed.map .string))])
      { instruction? := some r.instruction }
      { r.draft with mode? := none, control? := none, error? := none } := by
    cases hempty : r.failed.isEmpty with
    | true =>
      simp only [draft, hempty]
      exact .nil _
    | false =>
      refine .cons (fun rest hrest => ?_) (.nil _)
      simp only [readField, once_written (reads_texts r.failed) _ hrest, draft, hempty]
      rfl
  have hmode : Fills readField (r.mode?.map fun m => ("mode", Json.byte m)).toList
      { r.draft with mode? := none, control? := none, error? := none }
      { r.draft with control? := none, error? := none } := by
    refine .option (fun mode? => { r.draft with mode?, control? := none, error? := none })
      (fun m rest hrest => ?_) r.mode?
    simp only [readField, once_written ((reads_byte m).optional (begins_natural _)) _ hrest]
    rfl
  have hcontrol : Fills readField (r.control?.map fun c => ("ctrl", Json.byte c)).toList
      { r.draft with control? := none, error? := none } { r.draft with error? := none } := by
    refine .option (fun control? => { r.draft with control?, error? := none })
      (fun c rest hrest => ?_) r.control?
    simp only [readField, once_written ((reads_byte c).optional (begins_natural _)) _ hrest]
    rfl
  have herror : Fills readField (r.error?.map fun e => ("error", Json.string e)).toList
      { r.draft with error? := none } r.draft := by
    refine .option (fun error? => { r.draft with error? }) (fun e rest hrest => ?_) r.error?
    simp only [readField, chars_string,
      once_written ((reads_text e).optional (begins_stringChars e)) _ hrest]
    rfl
  exact ⟨_, rfl, (((hinstruction.append hfailed).append hmode).append hcontrol).append herror⟩

/-- Parts that are left out are filled in. -/
theorem draft_parts (r : ResponseResult) :
    (⟨r.instruction, r.draft.failed?.getD [], r.draft.mode?.join, r.draft.control?.join,
      r.draft.error?.join⟩ : ResponseResult) = r := by
  rcases r with ⟨instruction, _ | ⟨id, failed⟩, _ | mode, _ | control, _ | error⟩ <;> rfl

theorem reads_result (r : ResponseResult) : Reads read r.json.chars r := by
  intro rest _
  obtain ⟨fields, hjson, hfills⟩ := r.exists_fills
  have hread := readFields_written hfills rest (length_lt_fieldChars fields ('\x7d' :: rest))
  rw [hjson, chars_object, read, atValue, dropGaps_cons (by decide)]
  simp only [bind, Except.bind, hread]
  exact congrArg (fun result => Except.ok (result, rest)) r.draft_parts

end ResponseResult

namespace BackendResponse

theorem reads_status (success : Bool) :
    Reads readStatus (string (statusName success)).chars success := by
  intro rest hrest
  have hname := reads_textAs "variant identifier" (statusName success) rest hrest
  have hread : readStatusName (stringChars (statusName success) ++ rest) = .ok (success, rest) := by
    simp only [readStatusName, bind, Except.bind, hname]
    cases success <;> rfl
  rw [chars_string, readStatus, atValue, (begins_stringChars _).dropGaps]
  exact hread

theorem fills_fields (r : BackendResponse) : Fills readField
    [("status", .string (statusName r.success)), ("result", r.result.json)] {}
    { success? := some r.success, result? := some r.result } := by
  have hstatus : Fills readField [("status", .string (statusName r.success))] {}
      { success? := some r.success } := by
    refine .cons (fun rest hrest => ?_) (.nil _)
    simp only [readField, ResponseResult.once_written (reads_status r.success) _ hrest]
    rfl
  have hresult : Fills readField [("result", r.result.json)] { success? := some r.success }
      { success? := some r.success, result? := some r.result } := by
    refine .cons (fun rest hrest => ?_) (.nil _)
    simp only [readField, ResponseResult.once_written r.result.reads_result _ hrest]
    rfl
  exact hstatus.append hresult

theorem reads_response (r : BackendResponse) : Reads read r.json.chars r := by
  intro rest _
  have hread := readFields_written r.fills_fields rest
    (length_lt_fieldChars _ ('\x7d' :: rest))
  rw [json, chars_object, read, atValue, dropGaps_cons (by decide)]
  simp only [bind, Except.bind, hread]
  rfl

/-- The text of an answer reads back as the same answer, whatever its status, with any texts and
device ids in it, and with any of the parts that may be missing. -/
theorem ofText_written (r : BackendResponse) : ofText r.text = .ok r := by
  have hread := r.reads_response [] delimited_nil
  rw [List.append_nil] at hread
  rw [ofText, text, Json.text, String.toList_ofList, readAll, hread]
  rfl

end BackendResponse

end HarnessLink
