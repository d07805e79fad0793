import Rustuya.CommandPayload

/-!
# What the payload of a command carries

Six builders edit a common object in different ways. In all of them the data of the caller and
the id of the sub-device stand side by side in one object, and nothing else in the payload can
be taken for that id. The requests of the extended stream are the exception.
-/
namespace PayloadContents

open Error Json Protocol CommandPayload

def nests : TuyaProtocol → Bool
  | .v34 | .v35 => true
  | .v31 | .v32 | .v33 | .dev22 _ => false

def dataPath (protocol : TuyaProtocol) : CommandType → List String
  | .updateDps => ["dpId"]
  | .control | .controlNew => if nests protocol then ["data", "dps"] else ["dps"]
  | _ => ["dps"]

/-- The payload has the data at the end of the path, the sub-device in the same object, and
without a sub-device no key that could name one. -/
structure Delivers (path : List String) (d : Value) (cid : Option String) (payload : Value) :
    Prop where
  data : payload.pointer path = some d
  target : payload.pointer (path.dropLast ++ ["cid"]) = cid.map .string
  untargeted : cid = none → "cid" ∉ payload.keysOutside path

structure Carries (key : String) (d : Value) (cid : Option String) (m : Map) : Prop where
  data : m.get key = some d
  target : m.get "cid" = cid.map .string
  untargeted : cid = none → ∀ kv ∈ m, kv.1 ≠ "cid" ∧ (kv.1 = key ∨ kv.2.keys = [])

section Objects

variable {key : String} {d : Value} {cid : Option String} {m : Map}

theorem Carries.retain (h : Carries key d cid m) {keep : String → Bool} (hkey : keep key = true)
    (hcid : keep "cid" = true) : Carries key d cid (m.retain keep) where
  data := (Map.get_retain hkey).trans h.data
  target := (Map.get_retain hcid).trans h.target
  untargeted hnone kv hkv := h.untargeted hnone kv (List.mem_of_mem_filter hkv)

theorem Carries.remove (h : Carries key d cid m) {k : String} (hkey : key ≠ k)
    (hcid : "cid" ≠ k) : Carries key d cid (m.remove k) := by
  change Carries key d cid (m.retain fun other => other ≠ k)
  exact h.retain (decide_eq_true hkey) (decide_eq_true hcid)

theorem Carries.delivers (h : Carries key d cid m) : Delivers [key] d cid (.object m) where
  data := by
    rw [Value.pointer, h.data]
    rfl
  target := by
    change (m.get "cid").bind _ = _
    rw [h.target]
    cases cid <;> rfl
  untargeted hnone hmem := by
    obtain ⟨kv, hkv, hin⟩ := List.mem_flatMap.mp hmem
    obtain ⟨hname, hvalue⟩ := h.untargeted hnone kv hkv
    rcases List.mem_cons.mp hin with hcid | hin
    · exact hname hcid.symm
    · split at hin
      · cases hin
      · rw [hvalue.resolve_left ‹_›] at hin
        cases hin

theorem Carries.delivers_nested (h : Carries key d cid m) {outer : Map} {k : String}
    (hinner : outer.get k = some (.object m))
    (hbare : ∀ kv ∈ outer, kv.1 ≠ "cid" ∧ (kv = (k, .object m) ∨ kv.1 ≠ k ∧ kv.2.keys = [])) :
    Delivers [k, key] d cid (.object outer) where
  data := by
    rw [Value.pointer, hinner]
    exact h.delivers.data
  target := by
    change (outer.get k).bind _ = _
    rw [hinner]
    exact h.delivers.target
  untargeted hnone hmem := by
    obtain ⟨kv, hkv, hin⟩ := List.mem_flatMap.mp hmem
    obtain ⟨hname, hvalue⟩ := hbare kv hkv
    rcases List.mem_cons.mp hin with hcid | hin
    · exact hname hcid.symm
    · rcases hvalue with rfl | ⟨hne, hkeys⟩
      · rw [if_pos rfl] at hin
        exact h.delivers.untargeted hnone hin
      · rw [if_neg hne, hkeys] at hin
        cases hin

end Objects

section Builders

variable (deviceId : String) {d : Value} {cid : Option String} (t : UInt64)

theorem basePayload_carries : Carries "dps" d cid (basePayload deviceId (some d) cid t) := by
  refine ⟨Map.get_insert_self, ?_, ?_⟩
  · cases cid <;> simp [basePayload, createBasePayload]
  · rintro rfl kv hkv
    simp only [basePayload, createBasePayload] at hkv
    rcases Map.mem_of_mem_insert hkv with rfl | hkv
    · exact ⟨by simp, .inl rfl⟩
    rcases Map.mem_of_mem_insert hkv with rfl | hkv
    · exact ⟨by simp, .inr rfl⟩
    rcases Map.mem_of_mem_insert hkv with rfl | hkv
    · exact ⟨by simp, .inr rfl⟩
    rcases Map.mem_of_mem_insert hkv with rfl | hkv
    · exact ⟨by simp, .inr rfl⟩
    rcases Map.mem_of_mem_insert hkv with rfl | hkv
    · exact ⟨by simp, .inr rfl⟩
    · cases hkv

theorem updateDpsPayload_carries {m : Map} (h : Carries "dps" d cid m) :
    Carries "dpId" d cid (updateDpsPayload m (some d)) where
  data := Map.get_insert_self
  target := (Map.get_insert_of_ne (by decide)).trans ((Map.get_retain rfl).trans h.target)
  untargeted hnone kv hkv := by
    rcases Map.mem_of_mem_insert hkv with rfl | hkv
    · exact ⟨by simp, .inl rfl⟩
    · -- Without a sub-device nothing is retained.
      obtain ⟨hmem, hkeep⟩ := List.mem_filter.mp hkv
      exact absurd (beq_iff_eq.mp hkeep) (h.untargeted hnone kv hmem).1

theorem statusPayload_carries {m : Map} (h : Carries "dps" d cid m) :
    Carries "dps" d cid (statusPayload m) :=
  (h.remove (by decide) (by decide)).remove (by decide) (by decide)

theorem defaultedQuery_carries {m : Map} (h : Carries "dps" d cid m) :
    Carries "dps" d cid (defaultedQuery m) := by
  have hremoved : Carries "dps" d cid (m.remove "gwId") := h.remove (by decide) (by decide)
  have hquery : defaultedQuery m = m.remove "gwId" := by
    simp only [defaultedQuery, hremoved.data]
  rw [hquery]
  exact hremoved

theorem nestedControl_delivers :
    Delivers ["data", "dps"] d cid (.object (nestedControl (some d) cid t)) := by
  have hinner : ∃ m, Carries "dps" d cid m ∧ nestedControl (some d) cid t =
      ((Map.insert [] "protocol" (Value.ofNat 5)).insert "t" (.number (.posInt t))).insert "data"
        (.object m) := by
    refine ⟨_, ⟨Map.get_insert_self, ?_, ?_⟩, rfl⟩
    · cases cid <;> simp
    · rintro rfl kv hkv
      rcases Map.mem_of_mem_insert hkv with rfl | hkv
      · exact ⟨by simp, .inl rfl⟩
      · cases hkv
  obtain ⟨m, hcarries, hpayload⟩ := hinner
  rw [hpayload]
  refine hcarries.delivers_nested Map.get_insert_self ?_
  intro kv hkv
  rcases Map.mem_of_mem_insert hkv with rfl | hkv
  · exact ⟨by simp, .inl rfl⟩
  rcases Map.mem_of_mem_insert hkv with rfl | hkv
  · exact ⟨by simp, .inr ⟨by simp, rfl⟩⟩
  rcases Map.mem_of_mem_insert hkv with rfl | hkv
  · exact ⟨by simp, .inr ⟨by simp, rfl⟩⟩
  · cases hkv

variable {command : CommandType}

theorem generateRoot_delivers (hcommand : command ≠ .lanExtStream) {query : Map → Map}
    (hquery : ∀ m, Carries "dps" d cid m → Carries "dps" d cid (query m)) :
    Delivers (dataPath .v31 command) d cid
      (.object (generateRoot deviceId command (some d) cid t query)) := by
  have hbase : Carries "dps" d cid _ := basePayload_carries deviceId t
  cases command
  case lanExtStream => exact absurd rfl hcommand
  case updateDps => exact (updateDpsPayload_carries hbase).delivers
  case dpQuery => exact (hquery _ hbase).delivers
  case status | heartBeat => exact (statusPayload_carries hbase).delivers
  case control | controlNew | dpQueryNew =>
    exact (hbase.remove (by decide) (by decide)).delivers
  all_goals exact hbase.delivers

theorem generateNested_delivers (hcommand : command ≠ .lanExtStream) :
    Delivers (dataPath .v34 command) d cid
      (.object (generateNested deviceId command (some d) cid t)) := by
  have hbase : Carries "dps" d cid _ := basePayload_carries deviceId t
  cases command
  case lanExtStream => exact absurd rfl hcommand
  case updateDps => exact (updateDpsPayload_carries hbase).delivers
  case control | controlNew => exact nestedControl_delivers t
  case dpQuery | dpQueryNew =>
    have hkept : Carries "dps" d cid (Map.retain _ fun k => k == "cid" || k == "dps") :=
      hbase.retain rfl rfl
    exact hkept.delivers
  case status | heartBeat => exact (statusPayload_carries hbase).delivers
  all_goals exact hbase.delivers

theorem generatePayloadDev22_eq (hcommand : command ≠ .lanExtStream) :
    generatePayloadDev22 deviceId command (some d) cid t
      = generatePayloadV32 deviceId command (some d) cid t := by
  cases command
  case lanExtStream => exact absurd rfl hcommand
  all_goals rfl

theorem generatePayload_delivers (hcommand : command ≠ .lanExtStream) (protocol : TuyaProtocol) :
    Delivers (dataPath protocol command) d cid
      (generatePayload deviceId command (some d) cid t protocol).2 := by
  have hquery : ∀ m, Carries "dps" d cid m → Carries "dps" d cid (defaultedQuery m) :=
    fun _ => defaultedQuery_carries
  cases protocol
  case v31 | v33 => exact generateRoot_delivers deviceId t hcommand fun _ h => h
  case v32 => exact generateRoot_delivers deviceId t hcommand hquery
  case v34 | v35 => exact generateNested_delivers deviceId t hcommand
  case dev22 base =>
    rw [generatePayload]
    dsimp only
    rw [generatePayloadDev22_eq deviceId t hcommand]
    exact generateRoot_delivers deviceId t hcommand hquery

end Builders

/-- For every version, every command but the extended stream, every value and every
sub-device or none, the payload carries the value and the sub-device in one object, and it
determines both. -/
theorem payload_carries_data_and_target (protocol : TuyaProtocol) {command : CommandType}
    (hcommand : command ≠ .lanExtStream) (deviceId : String) (t : UInt64) (d : Value)
    (cid : Option String) :
    Delivers (dataPath protocol command) d cid
      (generatePayload deviceId command (some d) cid t protocol).2 ∧
    ∀ d' cid', generatePayload deviceId command (some d') cid' t protocol
        = generatePayload deviceId command (some d) cid t protocol → d' = d ∧ cid' = cid := by
  have hdelivers : ∀ d cid, Delivers (dataPath protocol command) d cid
      (generatePayload deviceId command (some d) cid t protocol).2 :=
    fun d cid => generatePayload_delivers deviceId t hcommand protocol
  refine ⟨hdelivers d cid, ?_⟩
  intro d' cid' hsame
  have hdelivered := hdelivers d' cid'
  rw [hsame] at hdelivered
  refine ⟨Option.some.inj (hdelivered.data.symm.trans (hdelivers d cid).data), ?_⟩
  have htarget := hdelivered.target.symm.trans (hdelivers d cid).target
  exact Option.map_injective (fun _ _ h => Value.string.inj h) htarget

theorem payload_carries_switch :
    (generatePayload "bf0123" .control (some (.object [("1", .bool true)])) (some "sub1") 7
      .v34).2.pointer ["data", "cid"] = some (.string "sub1") :=
  (payload_carries_data_and_target .v34 (by decide) "bf0123" 7 _ (some "sub1")).1.target

section ExtendedStream

def Targets (c : String) (payload : Value) : Prop :=
  payload.pointer ["cid"] = some (.string c) ∨ payload.pointer ["data", "cid"] = some (.string c)

def fieldPath (protocol : TuyaProtocol) (key : String) : List String :=
  if nests protocol ∧ key ≠ "reqType" then ["data", key] else [key]

/-- Every field of the caller's object is in the payload. -/
def Retains (protocol : TuyaProtocol) (fields : Map) (payload : Value) : Prop :=
  ∀ key v, fields.get key = some v → payload.pointer (fieldPath protocol key) = some v

/-- The payload that `SubDevice::request` sends for the extended stream. -/
def streamPayload (deviceId : String) (fields : Map) (c : String) (t : UInt64)
    (protocol : TuyaProtocol) : Value :=
  (generatePayload deviceId .lanExtStream (some (.object fields)) (some c) t protocol).2

variable {protocol : TuyaProtocol} (deviceId : String) {fields : Map} {c : String} (t : UInt64)

theorem pointer_one (m : Map) (key : String) : (Value.object m).pointer [key] = m.get key := by
  rw [Value.pointer]
  cases m.get key <;> rfl

theorem pointer_two {m inner : Map} {k : String} (h : m.get k = some (.object inner))
    (key : String) : (Value.object m).pointer [k, key] = inner.get key := by
  rw [Value.pointer, h]
  exact pointer_one inner key

theorem get_rootExtStream (h : fields.Distinct) (key : String) :
    Map.get (rootExtStream (some (.object fields))) key = fields.get key := by
  rw [rootExtStream]
  cases hreq : fields.get "reqType" with
  | none =>
    dsimp only
    rw [Map.get_extend h, Map.get_nil, Option.or_none]
  | some reqType =>
    dsimp only
    rw [Map.get_extend (h.remove _)]
    by_cases hkey : key = "reqType"
    · rw [hkey, Map.get_remove_self, Map.get_insert_self, hreq]
      rfl
    · rw [Map.get_remove_of_ne hkey, Map.get_insert_of_ne hkey, Map.get_nil, Option.or_none]

theorem targets_congr {m m' : Map} (h : ∀ key, m.get key = m'.get key)
    (htargets : Targets c (.object m)) : Targets c (.object m') := by
  unfold Targets at htargets ⊢
  simp only [Value.pointer, h] at htargets ⊢
  exact htargets

/-- From version 3.4 on the root holds the request type, and `data` the other fields. -/
theorem nestedExtStream_fields (fields : Map) :
    Map.get (nestedExtStream (some (.object fields))) "cid" = none ∧
    ∃ rest : Map, Map.get (nestedExtStream (some (.object fields))) "data" = some (.object rest) ∧
      rest.get "cid" = fields.get "cid" := by
  rw [nestedExtStream]
  cases fields.get "reqType" with
  | none => exact ⟨by simp, fields, by simp, rfl⟩
  | some reqType => exact ⟨by simp, fields.remove "reqType", by simp, by simp⟩

theorem not_targets_nestedExtStream (h : ¬ Targets c (.object fields)) :
    ¬ Targets c (.object (nestedExtStream (some (.object fields)))) := by
  obtain ⟨hroot, rest, hdata, hcid⟩ := nestedExtStream_fields fields
  rintro (htarget | htarget)
  · rw [pointer_one, hroot] at htarget
    cases htarget
  · rw [pointer_two hdata, hcid] at htarget
    exact h (.inl ((pointer_one fields "cid").trans htarget))

theorem wrappedExtStream_targets :
    Targets c (.object (wrappedExtStream (some (.object fields)) (some c))) := by
  refine .inl ?_
  rw [pointer_one]
  exact (Map.get_insert_of_ne (by decide)).trans Map.get_insert_self

theorem wrappedExtStream_retains_iff (base : TuyaProtocol) (h : ¬ Targets c (.object fields)) :
    Retains (.dev22 base) fields (.object (wrappedExtStream (some (.object fields)) (some c))) ↔
      fields.get "cid" = none ∧ ∀ v, fields.get "ctype" = some v → v = Value.ofNat 0 := by
  have hget : ∀ key, (Value.object (wrappedExtStream (some (.object fields)) (some c))).pointer
      (fieldPath (.dev22 base) key)
        = ((fields.insert "cid" (.string c)).insert "ctype" (Value.ofNat 0)).get key :=
    fun key => pointer_one _ key
  constructor
  · intro hretains
    constructor
    · rw [Option.eq_none_iff_forall_ne_some]
      intro v hv
      have hkept := hretains "cid" v hv
      rw [hget, Map.get_insert_of_ne (by decide), Map.get_insert_self] at hkept
      exact h (.inl ((pointer_one fields "cid").trans (hv.trans hkept.symm)))
    · intro v hv
      have hkept := hretains "ctype" v hv
      rw [hget, Map.get_insert_self] at hkept
      exact (Option.some.inj hkept).symm
  · rintro ⟨hcid, hctype⟩ key v hv
    rw [hget]
    by_cases htype : key = "ctype"
    · subst htype
      rw [Map.get_insert_self, hctype v hv]
    · have hne : key ≠ "cid" := by
        rintro rfl
        rw [hcid] at hv
        cases hv
      rw [Map.get_insert_of_ne htype, Map.get_insert_of_ne hne, hv]

theorem streamPayload_plain (h : ∀ base, protocol ≠ .dev22 base) (hdistinct : fields.Distinct)
    (hfresh : ¬ Targets c (.object fields)) :
    ¬ Targets c (streamPayload deviceId fields c t protocol) ∧
      ∀ c', streamPayload deviceId fields c' t protocol
        = streamPayload deviceId fields c t protocol := by
  have hroot : ¬ Targets c (.object (rootExtStream (some (.object fields)))) :=
    fun htargets => hfresh (targets_congr (get_rootExtStream hdistinct) htargets)
  cases protocol
  case dev22 base => exact absurd rfl (h base)
  case v31 | v32 | v33 => exact ⟨hroot, fun _ => rfl⟩
  case v34 | v35 => exact ⟨not_targets_nestedExtStream hfresh, fun _ => rfl⟩

theorem streamPayload_wrapped_injective (base : TuyaProtocol) {c' : String}
    (h : streamPayload deviceId fields c' t (.dev22 base)
      = streamPayload deviceId fields c t (.dev22 base)) : c' = c := by
  have hcid : ∀ c, (streamPayload deviceId fields c t (.dev22 base)).pointer ["cid"]
      = some (.string c) := by
    intro c
    refine (pointer_one _ "cid").trans ?_
    exact (Map.get_insert_of_ne (by decide)).trans Map.get_insert_self
  have hsame := hcid c'
  rw [h, hcid c] at hsame
  exact (Value.string.inj (Option.some.inj hsame)).symm

/-- A request of the extended stream for a sub-device, with an object that does not name the
sub-device itself, keeps its target and all its fields just in case the device is a Device22
and the object has no `cid` and no `ctype` but 0. The requests for different sub-devices
differ for a Device22, and for no other device. -/
theorem ext_stream_target_iff (protocol : TuyaProtocol) (deviceId : String) (t : UInt64)
    {fields : Map} {c : String} (hdistinct : fields.Distinct)
    (hfresh : ¬ Targets c (.object fields)) :
    (Targets c (streamPayload deviceId fields c t protocol) ∧
        Retains protocol fields (streamPayload deviceId fields c t protocol) ↔
      (∃ base, protocol = .dev22 base) ∧ fields.get "cid" = none ∧
        ∀ v, fields.get "ctype" = some v → v = Value.ofNat 0) ∧
    ((∀ c', streamPayload deviceId fields c' t protocol
        = streamPayload deviceId fields c t protocol → c' = c) ↔
      ∃ base, protocol = .dev22 base) := by
  by_cases hwrapped : ∃ base, protocol = .dev22 base
  · obtain ⟨base, rfl⟩ := hwrapped
    constructor
    · rw [← wrappedExtStream_retains_iff base hfresh]
      exact ⟨fun h => ⟨⟨base, rfl⟩, h.2⟩, fun h => ⟨wrappedExtStream_targets, h.2⟩⟩
    · exact ⟨fun _ => ⟨base, rfl⟩, fun _ _ hsame =>
        streamPayload_wrapped_injective deviceId t base hsame⟩
  · have hplain : ∀ base, protocol ≠ .dev22 base := fun base hp => hwrapped ⟨base, hp⟩
    obtain ⟨hmissing, hsame⟩ := streamPayload_plain deviceId t hplain hdistinct hfresh
    constructor
    · exact ⟨fun h => absurd h.1 hmissing, fun h => absurd h.1 hwrapped⟩
    · obtain ⟨other, hne⟩ : ∃ other, other ≠ c := by
        by_cases hempty : c = ""
        · exact ⟨"sub", by rw [hempty]; decide⟩
        · exact ⟨"", Ne.symm hempty⟩
      exact ⟨fun h => absurd (h other (hsame other)) hne, fun h => absurd h hwrapped⟩

def listing : Map := [("reqType", .string "subdev_online_stat_query")]

theorem listing_reaches_sub_device :
    Targets "sub1" (streamPayload "bf0123" listing "sub1" 7 (.dev22 .v33)) := by
  have hfresh : ¬ Targets "sub1" (.object listing) := by
    rintro (h | h) <;> cases h
  refine ((ext_stream_target_iff (.dev22 .v33) "bf0123" 7 (by decide) hfresh).1.mpr ?_).1
  refine ⟨⟨.v33, rfl⟩, rfl, ?_⟩
  intro v hv
  cases hv

/-- Under version 3.3 the same request names no sub-device, and two sub-devices are sent the
same. -/
theorem listing_loses_sub_device :
    ¬ Targets "sub1" (streamPayload "bf0123" listing "sub1" 7 .v33) ∧
    streamPayload "bf0123" listing "sub1" 7 .v33
      = streamPayload "bf0123" listing "sub2" 7 .v33 := by
  refine ⟨?_, rfl⟩
  rintro (h | h) <;> cases h

end ExtendedStream

end PayloadContents
