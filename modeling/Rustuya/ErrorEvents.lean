import Rustuya.StreamFraming

/-!
# What an error event carries

The event of an error is an object with the code and its message, to which the fields of an
object that the device has sent may be added. The fields keep their names, and those with
the names of the event's own fields replace them.
-/
namespace ErrorEvents

open CheckedExecution Error Message Json DeviceState StreamReader

def rawKey (obj : Map) : Option String :=
  ["data", "payload", keyPayloadRaw].find? fun key => (obj.get key).isSome

/-- The event tells the code and its message, and every field of an attached object. -/
structure Genuine (code : Nat) (payload : Option Value) (response : Map) : Prop where
  errorCode : response.get keyErrCode = some (Value.ofNat code)
  errorMsg : response.get keyErrMsg = some (.string (getErrorMessage code))
  moved : ∀ (obj : Map) key, payload = some (.object obj) → rawKey obj = some key →
    response.get keyPayloadRaw = obj.get key
  named : ∀ (obj : Map) key v, payload = some (.object obj) → rawKey obj ≠ some key →
    obj.get key = some v → response.get key = some v

/-- The object contradicts neither the event nor itself: fields with the names of the code and
of the message hold these, and `payloadRaw` holds what is moved there. -/
structure Agrees (code : Nat) (obj : Map) : Prop where
  errorCode : ∀ v, obj.get keyErrCode = some v → v = Value.ofNat code
  errorMsg : ∀ v, obj.get keyErrMsg = some v → v = .string (getErrorMessage code)
  moved : ∀ key v, rawKey obj = some key → obj.get keyPayloadRaw = some v → obj.get key = some v

section Fields

variable {obj : Map} {key : String}

theorem rawKey_spec (h : rawKey obj = some key) :
    (obj.get key).isSome ∧ (key = "data" ∨ key = "payload" ∨ key = keyPayloadRaw) := by
  have hmem := List.mem_of_find?_eq_some h
  simp only [List.mem_cons, List.not_mem_nil, or_false] at hmem
  exact ⟨List.find?_some (p := fun key => (obj.get key).isSome) h, hmem⟩

theorem takeRaw_eq (obj : Map) : takeRaw obj =
    match rawKey obj with
    | some key => (obj.get key, obj.remove key)
    | none => (none, obj) := by
  unfold takeRaw rawKey
  cases hdata : obj.get "data" with
  | some raw => simp [hdata]
  | none =>
    cases hpayload : obj.get "payload" with
    | some raw => simp [hdata, hpayload]
    | none =>
      cases hraw : obj.get keyPayloadRaw with
      | some raw => simp [hdata, hpayload, hraw]
      | none => simp [hdata, hpayload, hraw]

theorem takeRaw_distinct (h : obj.Distinct) : (takeRaw obj).2.Distinct := by
  rw [takeRaw_eq]
  split
  · exact h.remove _
  · exact h

theorem get_takeRaw_of_ne (h : rawKey obj ≠ some key) : (takeRaw obj).2.get key = obj.get key := by
  rw [takeRaw_eq]
  split
  next key' hkey =>
    have hne : key ≠ key' := fun heq => h (heq ▸ hkey)
    exact Map.get_remove_of_ne hne
  next => rfl

theorem get_takeRaw_self (h : rawKey obj = some key) : (takeRaw obj).2.get key = none := by
  rw [takeRaw_eq, h]
  exact Map.get_remove_self

end Fields

section Response

variable {obj : Map} {key : String} (code : Nat)

def started (obj : Map) : Map :=
  match (takeRaw obj).1 with
  | some raw => (errorResponse code none).insert keyPayloadRaw raw
  | none => errorResponse code none

theorem get_response (h : obj.Distinct) : (errorResponse code (some (.object obj))).get key
    = ((takeRaw obj).2.get key).or ((started code obj).get key) := by
  have hresponse : errorResponse code (some (.object obj))
      = (started code obj).extend (takeRaw obj).2 := by
    unfold started
    cases hraw : (takeRaw obj).1 <;> simp only [errorResponse, hraw]
  rw [hresponse, Map.get_extend (takeRaw_distinct h)]

theorem get_started_of_ne (h : key ≠ keyPayloadRaw) :
    (started code obj).get key = (errorResponse code none).get key := by
  unfold started
  split
  · exact Map.get_insert_of_ne h
  · rfl

theorem get_started_raw (h : rawKey obj = some key) :
    (started code obj).get keyPayloadRaw = obj.get key := by
  obtain ⟨raw, hraw⟩ := Option.isSome_iff_exists.mp (rawKey_spec h).1
  rw [started, takeRaw_eq, h]
  simp only [hraw]
  exact Map.get_insert_self

theorem get_errorCode : (errorResponse code none).get keyErrCode = some (Value.ofNat code) :=
  Map.get_insert_self

theorem get_errorMsg :
    (errorResponse code none).get keyErrMsg = some (.string (getErrorMessage code)) :=
  (Map.get_insert_of_ne (by decide)).trans Map.get_insert_self

/-- A field of the event that is not moved keeps its value just in case the object has no
other value for it. -/
theorem get_response_iff {v : Value} (h : obj.Distinct) (hkey : rawKey obj ≠ some key)
    (hv : (started code obj).get key = some v) :
    (errorResponse code (some (.object obj))).get key = some v ↔
      ∀ u, obj.get key = some u → u = v := by
  rw [get_response code h, get_takeRaw_of_ne hkey, hv]
  cases obj.get key <;> simp

/-- The field that is moved is found where it is moved to, just in case the object has no
other value there. -/
theorem get_response_moved_iff (h : obj.Distinct) (hkey : rawKey obj = some key) :
    (errorResponse code (some (.object obj))).get keyPayloadRaw = obj.get key ↔
      ∀ u, obj.get keyPayloadRaw = some u → obj.get key = some u := by
  obtain ⟨raw, hraw⟩ := Option.isSome_iff_exists.mp (rawKey_spec hkey).1
  by_cases hself : key = keyPayloadRaw
  · subst hself
    rw [get_response code h, get_takeRaw_self hkey, get_started_raw code hkey]
    simp
  · have hne : rawKey obj ≠ some keyPayloadRaw := by
      rw [hkey]
      exact fun heq => hself (Option.some.inj heq)
    rw [hraw, get_response_iff code h hne ((get_started_raw code hkey).trans hraw)]
    exact forall_congr' fun u => ⟨fun hu hget => congrArg some (hu hget).symm,
      fun hu hget => (Option.some.inj (hu hget)).symm⟩

theorem rawKey_ne (h : key = keyErrCode ∨ key = keyErrMsg) : rawKey obj ≠ some key := by
  intro hraw
  rcases (rawKey_spec hraw).2 with rfl | rfl | rfl <;> revert h <;> decide

theorem response_code_iff (h : obj.Distinct) :
    (errorResponse code (some (.object obj))).get keyErrCode = some (Value.ofNat code) ↔
      ∀ v, obj.get keyErrCode = some v → v = Value.ofNat code :=
  get_response_iff code h (rawKey_ne (.inl rfl))
    ((get_started_of_ne code (by decide)).trans (get_errorCode code))

theorem response_msg_iff (h : obj.Distinct) :
    (errorResponse code (some (.object obj))).get keyErrMsg
        = some (.string (getErrorMessage code)) ↔
      ∀ v, obj.get keyErrMsg = some v → v = .string (getErrorMessage code) :=
  get_response_iff code h (rawKey_ne (.inr rfl))
    ((get_started_of_ne code (by decide)).trans (get_errorMsg code))

theorem genuine_object_iff (h : obj.Distinct) :
    Genuine code (some (.object obj)) (errorResponse code (some (.object obj))) ↔
      Agrees code obj := by
  constructor
  · intro hgenuine
    exact ⟨(response_code_iff code h).mp hgenuine.errorCode,
      (response_msg_iff code h).mp hgenuine.errorMsg, fun key v hkey =>
        (get_response_moved_iff code h hkey).mp (hgenuine.moved obj key rfl hkey) v⟩
  · intro hagrees
    refine ⟨(response_code_iff code h).mpr hagrees.errorCode,
      (response_msg_iff code h).mpr hagrees.errorMsg, ?_, ?_⟩
    · intro obj' key hobj hkey
      cases hobj
      exact (get_response_moved_iff code h hkey).mpr fun v => hagrees.moved key v hkey
    · intro obj' key v hobj hkey hv
      cases hobj
      rw [get_response code h, get_takeRaw_of_ne hkey, hv]
      rfl

theorem response_of_not_object {payload : Option Value}
    (h : ∀ obj, payload ≠ some (.object obj)) :
    errorResponse code payload = errorResponse code none ∨
      ∃ key v, key ≠ keyErrCode ∧ key ≠ keyErrMsg ∧
        errorResponse code payload = (errorResponse code none).insert key v := by
  have hstr : keyPayloadStr ≠ keyErrCode ∧ keyPayloadStr ≠ keyErrMsg := by decide
  have hobj : keyErrPayloadObj ≠ keyErrCode ∧ keyErrPayloadObj ≠ keyErrMsg := by decide
  cases payload with
  | none => exact .inl rfl
  | some v =>
    right
    cases v with
    | object obj => exact absurd rfl (h obj)
    | string text => exact ⟨keyPayloadStr, .string text, hstr.1, hstr.2, rfl⟩
    | null | bool | number | array => exact ⟨keyErrPayloadObj, _, hobj.1, hobj.2, rfl⟩

theorem genuine_of_not_object {payload : Option Value} (h : ∀ obj, payload ≠ some (.object obj)) :
    Genuine code payload (errorResponse code payload) := by
  refine ⟨?_, ?_, fun obj _ hobj => absurd hobj (h obj), fun obj _ _ hobj => absurd hobj (h obj)⟩
  · rcases response_of_not_object code h with hnone | ⟨key, v, hcode, -, hinsert⟩
    · rw [hnone, get_errorCode]
    · rw [hinsert, Map.get_insert_of_ne hcode.symm, get_errorCode]
  · rcases response_of_not_object code h with hnone | ⟨key, v, -, hmsg, hinsert⟩
    · rw [hnone, get_errorMsg]
    · rw [hinsert, Map.get_insert_of_ne hmsg.symm, get_errorMsg]

end Response

/-- The message of an error has command 0 and is the text of an object. The object tells the
code, its message and every field that is attached, just in case the attached object agrees
with the code; what is attached in any other form is never mistaken for it. -/
theorem error_event_genuine_iff (S : Codec) (s : State) (code : Nat) {payload : Option Value}
    (hdistinct : ∀ obj, payload = some (.object obj) → Map.Distinct obj) :
    (errorHelper S s code payload).cmd = 0 ∧
    (errorHelper S s code payload).payload = S.toVec (.object (errorResponse code payload)) ∧
    (Genuine code payload (errorResponse code payload) ↔
      ∀ obj, payload = some (.object obj) → Agrees code obj) := by
  refine ⟨rfl, rfl, ?_⟩
  by_cases hobject : ∃ obj, payload = some (.object obj)
  · obtain ⟨obj, rfl⟩ := hobject
    rw [genuine_object_iff code (hdistinct obj rfl)]
    constructor
    · intro hagrees obj' hobj
      cases hobj
      exact hagrees
    · intro hagrees
      exact hagrees obj rfl
  · have hnot : ∀ obj, payload ≠ some (.object obj) := fun obj hobj => hobject ⟨obj, hobj⟩
    exact ⟨fun _ obj hobj => absurd hobj (hnot obj), fun _ => genuine_of_not_object code hnot⟩

def agreeing : Map := [("data", .null), (keyErrCode, .ofNat errDevtype)]

theorem error_event_genuine_agreeing : agreeing.Distinct ∧
    Genuine errDevtype (some (.object agreeing))
      (errorResponse errDevtype (some (.object agreeing))) := by
  have hdistinct : agreeing.Distinct := by decide
  have hagrees : Agrees errDevtype agreeing := by
    refine ⟨?_, ?_, ?_⟩
    · rintro v hv
      exact (Option.some.inj hv).symm
    · rintro v hv
      cases hv
    · rintro key v - hv
      cases hv
  refine ⟨hdistinct, (error_event_genuine_iff ⟨fun _ => none, fun _ => []⟩
    StreamFraming.sampleState errDevtype ?_).2.2.mpr ?_⟩
  · rintro obj hobj
    cases hobj
    exact hdistinct
  · rintro obj hobj
    cases hobj
    exact hagrees

def forging : Map := [(keyErrCode, .ofNat errSuccess)]

/-- The event of the detected device type tells success. -/
theorem error_code_forged : forging.Distinct ∧
    (errorResponse errDevtype (some (.object forging))).get keyErrCode = some (.ofNat errSuccess) ∧
    ¬ Genuine errDevtype (some (.object forging))
      (errorResponse errDevtype (some (.object forging))) := by
  have hcode : (errorResponse errDevtype (some (.object forging))).get keyErrCode
      = some (.ofNat errSuccess) := rfl
  refine ⟨by decide, hcode, ?_⟩
  intro hgenuine
  have hne : Value.ofNat errSuccess = Value.ofNat errDevtype :=
    Option.some.inj (hcode.symm.trans hgenuine.errorCode)
  rw [Value.ofNat, Value.ofNat] at hne
  injection hne with hne
  injection hne with hne
  revert hne
  decide

end ErrorEvents
