import MqttForwarder.SemtechUdp.Downlink
import MqttForwarder.Serde.Rereading
import MqttForwarder.Uplink.DataRates

/-!
# Reading a PULL_RESP back

The field types of the `txpk` object have a reader as well, since the `rxpk`
object has fields of the same types.  What these readers make of a `txpk`
object is what was written, except for one coding rate.
-/

namespace MqttForwarder.SemtechUdp

open MqttForwarder.Rust MqttForwarder.Serde

/-! ## The reader -/

/-- The fields of a `txpk` object that have a reader. -/
structure ReadTxPk where
  modu : Modulation
  datr : DataRate
  codr : Option CodeRate
  fdev : Option UInt16
  ncrc : Option Bool
  ipol : Option Bool
  prea : Option UInt16
  tmst : Option UInt32
  tmms : Option UInt64
  size : UInt16
  data : List UInt8
  deriving DecidableEq

/-- These fields of an object that was written. -/
def TxPk.shown (txpk : TxPk) : ReadTxPk :=
  { modu := txpk.modu, datr := txpk.datr, codr := txpk.codr, fdev := txpk.fdev,
    ncrc := txpk.ncrc, ipol := txpk.ipol, prea := txpk.prea, tmst := txpk.tmst,
    tmms := txpk.tmms, size := txpk.size, data := txpk.data }

section

variable (crates : Crates) (profile : Profile)

/-- Each field is read by the reader of its type; a field that is absent is `None`. -/
def ReadTxPk.ofFields (fields : List (String × Json)) : Outcome ReadTxPk := do
  let modu ← Json.field fields "modu" Modulation.deserialize
  let datr ← Json.field fields "datr" (DataRate.deserialize profile)
  let codr ← Json.fieldOption fields "codr" CodeRate.deserialize
  let fdev ← Json.fieldOption fields "fdev" Json.u16
  let ncrc ← Json.fieldOption fields "ncrc" Json.boolean
  let ipol ← Json.fieldOption fields "ipol" Json.boolean
  let prea ← Json.fieldOption fields "prea" Json.u16
  let tmst ← Json.fieldOption fields "tmst" Json.u32
  let tmms ← Json.fieldOption fields "tmms" Json.u64
  let size ← Json.field fields "size" Json.u16
  let data ← Json.field fields "data" (base64Bytes crates)
  pure { modu, datr, codr, fdev, ncrc, ipol, prea, tmst, tmms, size, data }

def ReadTxPk.deserialize : Json → Outcome ReadTxPk
  | .object fields => ReadTxPk.ofFields crates profile fields
  | _ => .err "invalid type"

/-- The `txpk` object of a PULL_RESP is read. -/
def readPullResp (b : List UInt8) : Outcome ReadTxPk :=
  fromJson (fun
    | .object fields => Json.field fields "txpk" (ReadTxPk.deserialize crates profile)
    | _ => .err "invalid type") (crates.readJson (b.drop 4))

end

/-! ## Fields that are written -/

/-- The fields have what the writer makes of the object. -/
structure Carries (crates : Crates) (txpk : TxPk) (fields : List (String × Json)) : Prop where
  modu : fields.lookup "modu" = some txpk.modu.serialize
  datr : fields.lookup "datr" = some txpk.datr.serialize
  codr : fields.lookup "codr" = txpk.codr.map CodeRate.serialize
  fdev : fields.lookup "fdev" = txpk.fdev.map fun x => jsonNat x.toNat
  ncrc : fields.lookup "ncrc" = txpk.ncrc.map Json.bool
  ipol : fields.lookup "ipol" = txpk.ipol.map Json.bool
  prea : fields.lookup "prea" = txpk.prea.map fun x => jsonNat x.toNat
  tmst : fields.lookup "tmst" = txpk.tmst.map fun x => jsonNat x.toNat
  tmms : fields.lookup "tmms" = txpk.tmms.map fun x => jsonNat x.toNat
  size : fields.lookup "size" = some (jsonNat txpk.size.toNat)
  data : fields.lookup "data" = some (jsonStr (crates.base64Encode txpk.data))

theorem lookup_unlessNone {α : Type} (name key : String) (write : α → Json) (x : Option α) :
    (unlessNone name write x).lookup key = if key = name then x.map write else none := by
  cases x with
  | none => simp [unlessNone]
  | some value =>
      rw [unlessNone, List.lookup_cons, List.lookup_nil]
      by_cases same : key = name
      · simp [same]
      · rw [beq_eq_false_iff_ne.mpr same, if_neg same]

theorem TxPk.serialize_carries (crates : Crates) (txpk : TxPk) :
    ∃ fields, txpk.serialize crates = .object fields ∧ Carries crates txpk fields := by
  refine ⟨_, rfl, ?_⟩
  constructor <;>
    simp [List.lookup_append, lookup_unlessNone, List.lookup_cons]

section

variable {crates : Crates} {profile : Profile} {txpk : TxPk} {fields fields' : List (String × Json)}

theorem DataRate.serialize_scalar (rate : DataRate) : rate.serialize.scalar = true := by
  cases rate <;> rfl

theorem CodeRate.serialize_scalar (rate : CodeRate) : rate.serialize.scalar = true := by
  cases rate <;> rfl

theorem Modulation.serialize_scalar (modu : Modulation) : modu.serialize.scalar = true := by
  cases modu <;> rfl

/-- The fields of these types are scalars, so they are the same when they are read again. -/
theorem Carries.again (carries : Carries crates txpk fields)
    (same : Json.skeletonFields fields' = Json.skeletonFields fields) :
    Carries crates txpk fields' := by
  have present : ∀ {name : String} {value : Json}, fields.lookup name = some value →
      value.scalar = true → fields'.lookup name = some value := by
    intro name value found scalar
    rw [Json.lookup_of_skeleton same fun other found' => ?_, found]
    rw [found] at found'
    exact Option.some.inj found' ▸ scalar
  have optional : ∀ {α : Type} {name : String} {x : Option α} {write : α → Json},
      fields.lookup name = x.map write → (∀ y, (write y).scalar = true) →
      fields'.lookup name = x.map write := by
    intro α name x write found scalar
    rw [Json.lookup_of_skeleton same fun other found' => ?_, found]
    rw [found] at found'
    obtain ⟨y, _, rfl⟩ := Option.map_eq_some_iff.mp found'
    exact scalar y
  exact {
    modu := present carries.modu (Modulation.serialize_scalar _)
    datr := present carries.datr (DataRate.serialize_scalar _)
    codr := optional carries.codr CodeRate.serialize_scalar
    fdev := optional carries.fdev fun _ => rfl
    ncrc := optional carries.ncrc fun _ => rfl
    ipol := optional carries.ipol fun _ => rfl
    prea := optional carries.prea fun _ => rfl
    tmst := optional carries.tmst fun _ => rfl
    tmms := optional carries.tmms fun _ => rfl
    size := present carries.size rfl
    data := present carries.data rfl }

/-! ## Field types that are read -/

theorem Modulation.deserialize_serialize (modu : Modulation) :
    Modulation.deserialize modu.serialize = .ok modu := by
  cases modu <;> rfl

/-- A coding rate is read as it was written, except for 4/8LI. -/
theorem CodeRate.deserialize_serialize_iff {rate : CodeRate} (defined : rate ≠ .undefined) :
    CodeRate.deserialize rate.serialize = .ok rate ↔ rate ≠ .crLi48 := by
  cases rate with
  | undefined => exact absurd rfl defined
  | crLi48 => exact iff_of_false (by decide) fun other => other rfl
  | _ => exact iff_of_true rfl (by decide)

/-- A width in whole kilohertz. -/
def DataRate.Whole : DataRate → Prop
  | lora _ bw => bw.toNat % 1000 = 0
  | fsk _ => True
  | lrFhss ocw => ocw.toNat % 1000 = 0

theorem mulU32_div_thousand (profile : Profile) {width : UInt32}
    (whole : width.toNat % 1000 = 0) : mulU32 profile (width / 1000) 1000 = .ok width := by
  have khz : (width / 1000).toNat * 1000 = width.toNat := by
    rw [UInt32.toNat_div]
    exact Nat.div_mul_cancel (Nat.dvd_of_mod_eq_zero whole)
  obtain ⟨product, computed, value⟩ := mulU32_eq profile (khz ▸ width.toNat_lt)
  rw [computed, ← UInt32.toNat_inj.mp (value.trans khz)]

theorem DataRate.deserialize_serialize (profile : Profile) {rate : DataRate}
    (whole : rate.Whole) : DataRate.deserialize profile rate.serialize = .ok rate := by
  cases rate with
  | lora sf bw =>
      have form : LoraForm (String.ofList ("SF".toList ++ decimal sf ++ "BW".toList ++
          decimal (bw / 1000))).toList (decimal sf) (decimal (bw / 1000)) sf (bw / 1000) := by
        rw [String.toList_ofList]
        exact ⟨rfl, parseU32_decimal sf, parseU32_decimal (bw / 1000)⟩
      rw [DataRate.serialize, jsonStr, DataRate.deserialize_lora form,
        mulU32_div_thousand profile whole]
      rfl
  | fsk bitrate =>
      have number : (UInt64.ofNat bitrate.toNat).toUInt32 = bitrate := by
        apply UInt32.toNat_inj.mp
        have bound := bitrate.toNat_lt
        rw [UInt64.toNat_toUInt32, UInt64.toNat_ofNat']
        omega
      calc DataRate.deserialize profile (DataRate.fsk bitrate).serialize
          = .ok (.fsk (UInt64.ofNat bitrate.toNat).toUInt32) := rfl
        _ = .ok (.fsk bitrate) := by rw [number]
  | lrFhss ocw =>
      have form : LrFhssForm (String.ofList ("M0CW".toList ++ decimal (ocw / 1000))).toList
          (decimal (ocw / 1000)) (ocw / 1000) := by
        rw [String.toList_ofList]
        exact ⟨rfl, parseU32_decimal (ocw / 1000)⟩
      rw [DataRate.serialize, jsonStr, DataRate.deserialize_lrFhss form,
        mulU32_div_thousand profile whole]
      rfl

theorem unsigned_jsonNat {n bound : Nat} (fits : n < bound) (word : bound ≤ 2 ^ 64) :
    (jsonNat n).unsigned bound = .ok n := by
  have number : (UInt64.ofNat n).toNat = n := by
    rw [UInt64.toNat_ofNat']
    exact Nat.mod_eq_of_lt (by omega)
  rw [jsonNat, Json.unsigned, number, if_pos fits]

theorem u16_jsonNat (value : UInt16) : (jsonNat value.toNat).u16 = .ok value := by
  rw [Json.u16, unsigned_jsonNat value.toNat_lt (by decide), Outcome.map_ok, UInt16.ofNat_toNat]

theorem u32_jsonNat (value : UInt32) : (jsonNat value.toNat).u32 = .ok value := by
  rw [Json.u32, unsigned_jsonNat value.toNat_lt (by decide), Outcome.map_ok, UInt32.ofNat_toNat]

theorem u64_jsonNat (value : UInt64) : (jsonNat value.toNat).u64 = .ok value := by
  rw [Json.u64, unsigned_jsonNat value.toNat_lt (by decide), Outcome.map_ok, UInt64.ofNat_toNat]

theorem boolean_bool (value : Bool) : (Json.bool value).boolean = .ok value := rfl

theorem field_eq {α : Type} {name : String} {read : Json → Outcome α} {value : Json}
    (found : fields.lookup name = some value) : Json.field fields name read = read value := by
  rw [Json.field, found]
  rfl

/-- An optional field is read if what is written of its value can be read. -/
theorem fieldOption_eq {α : Type} {name : String} {read : Json → Outcome α} {write : α → Json}
    {x : Option α} (found : fields.lookup name = x.map write)
    (reads : ∀ y, x = some y → read (write y) = .ok y) :
    Json.fieldOption fields name read = .ok x := by
  rw [Json.fieldOption, found]
  cases x with
  | none => rfl
  | some y => exact congrArg (some <$> ·) (reads y rfl)

/-! ## Reading what was written -/

/-- The characters of the standard base64 alphabet, and the padding. -/
def base64Alphabet : List Char :=
  "ABCDEFGHIJKLMNOPQRSTUVWXYZabcdefghijklmnopqrstuvwxyz0123456789+/=".toList

/-- The base64 text of some bytes can be decoded, and has characters of the alphabet only. -/
structure ReadsBase64 (crates : Crates) (data : List UInt8) : Prop where
  decodes : crates.base64Decode (crates.base64Encode data) = some data
  alphabet : ∀ c ∈ (crates.base64Encode data).toList, c ∈ base64Alphabet

/-- A value without strings that need escapes is read as it was written, up to the digits of
its floats. -/
def ReadsJson (crates : Crates) (value : Json) : Prop :=
  value.unescaped = true → ∃ again, crates.readJson (crates.writeJson value) = ⟨again, false⟩ ∧
    again.skeleton = value.skeleton

/-- The fields are read as they were written, exactly if the coding rate is. -/
theorem ReadTxPk.ofFields_iff (carries : Carries crates txpk fields) (whole : txpk.datr.Whole)
    (decodes : crates.base64Decode (crates.base64Encode txpk.data) = some txpk.data)
    (defined : txpk.codr ≠ some .undefined) :
    ReadTxPk.ofFields crates profile fields = .ok txpk.shown ↔ txpk.codr ≠ some .crLi48 := by
  have data : base64Bytes crates (jsonStr (crates.base64Encode txpk.data)) = .ok txpk.data := by
    rw [base64Bytes, jsonStr, Json.str, Outcome.ok_bind, decodes]
    rfl
  have codr : ∀ rate, txpk.codr = some rate →
      (CodeRate.deserialize rate.serialize = .ok rate ↔ rate ≠ .crLi48) := by
    intro rate same
    refine CodeRate.deserialize_serialize_iff ?_
    rintro rfl
    exact defined same
  simp only [ReadTxPk.ofFields, field_eq carries.modu, Modulation.deserialize_serialize,
    field_eq carries.datr, DataRate.deserialize_serialize profile whole,
    fieldOption_eq carries.fdev fun y _ => u16_jsonNat y,
    fieldOption_eq carries.prea fun y _ => u16_jsonNat y,
    fieldOption_eq carries.ncrc fun y _ => boolean_bool y,
    fieldOption_eq carries.ipol fun y _ => boolean_bool y,
    fieldOption_eq carries.tmst fun y _ => u32_jsonNat y,
    fieldOption_eq carries.tmms fun y _ => u64_jsonNat y, field_eq carries.size, u16_jsonNat,
    field_eq carries.data, data, Outcome.ok_bind]
  by_cases other : txpk.codr = some .crLi48
  · have changed : Json.fieldOption fields "codr" CodeRate.deserialize = .ok (some .crLi45) := by
      rw [Json.fieldOption, carries.codr, other]
      rfl
    rw [changed]
    refine iff_of_false (fun same => ?_) fun unequal => unequal other
    have rates : some CodeRate.crLi45 = txpk.codr := congrArg ReadTxPk.codr (Outcome.ok.inj same)
    rw [other] at rates
    cases rates
  · rw [fieldOption_eq carries.codr fun rate same =>
      (codr rate same).mpr fun li => other (li ▸ same)]
    exact iff_of_true rfl other

/-! ## Strings of the object -/

theorem unescapedChar_of_isDigit {c : Char} (digit : c.isDigit) : unescapedChar c = true := by
  have code : 32 ≤ c.toNat := by
    have zero : ('0' : Char).val.toNat = 48 := rfl
    simp only [Char.isDigit, Bool.and_eq_true, decide_eq_true_eq, ge_iff_le,
      UInt32.le_iff_toNat_le, zero] at digit
    change 32 ≤ c.val.toNat
    omega
  have quote : c ≠ '"' := by
    rintro rfl
    exact absurd digit (by decide)
  have backslash : c ≠ '\\' := by
    rintro rfl
    exact absurd digit (by decide)
  simp [unescapedChar, quote, backslash, code]

theorem unescaped_decimal (value : UInt32) : (decimal value).all unescapedChar = true :=
  List.all_eq_true.mpr fun _ member =>
    unescapedChar_of_isDigit (Nat.isDigit_of_mem_toDigits (by decide) (by decide) member)

theorem DataRate.serialize_unescaped (rate : DataRate) : rate.serialize.unescaped = true := by
  cases rate with
  | lora sf bw =>
      simp [DataRate.serialize, jsonStr, Json.unescaped, unescapedText, unescaped_decimal]
      decide
  | fsk bitrate => rfl
  | lrFhss ocw =>
      simp [DataRate.serialize, jsonStr, Json.unescaped, unescapedText, unescaped_decimal]
      decide

theorem CodeRate.serialize_unescaped (rate : CodeRate) : rate.serialize.unescaped = true := by
  cases rate <;> decide

theorem Modulation.serialize_unescaped (modu : Modulation) : modu.serialize.unescaped = true := by
  cases modu <;> decide

theorem unescapedFields_unlessNone {α : Type} {name : String} (plain : unescapedText name = true)
    {write : α → Json} (written : ∀ y, (write y).unescaped = true) (x : Option α) :
    Json.unescapedFields (unlessNone name write x) = true := by
  cases x with
  | none => rfl
  | some y => simp [unlessNone, Json.unescapedFields, plain, written y]

theorem ReadsBase64.unescaped {data : List UInt8} (base64 : ReadsBase64 crates data) :
    (jsonStr (crates.base64Encode data)).unescaped = true := by
  have checked : base64Alphabet.all unescapedChar = true := by decide
  have letters : ∀ c ∈ base64Alphabet, unescapedChar c = true := List.all_eq_true.mp checked
  have plain : unescapedText (crates.base64Encode data) = true :=
    List.all_eq_true.mpr fun c member => letters c (base64.alphabet c member)
  rw [jsonStr, Json.unescaped, plain]
  rfl

/-- No string of the object needs an escape. -/
theorem TxPk.serialize_unescaped {txpk : TxPk} (base64 : ReadsBase64 crates txpk.data) :
    (txpk.serialize crates).unescaped = true := by
  have numbers : ∀ n, (jsonNat n).unescaped = true := fun _ => rfl
  have booleans : ∀ value, (Json.bool value).unescaped = true := fun _ => rfl
  have flags : ∀ name x, unescapedText name = true →
      Json.unescapedFields (unlessNone name Json.bool x) = true :=
    fun _ x plain => unescapedFields_unlessNone plain booleans x
  have names : ∀ name ∈ ["imme", "rfch", "powe", "ant", "brd", "tmst", "tmms", "freq", "modu",
      "datr", "codr", "fdev", "ncrc", "ipol", "prea", "size", "data"],
      unescapedText name = true := by decide
  simp only [List.forall_mem_cons] at names
  simp only [TxPk.serialize, Json.unescaped, Json.unescapedFields_append, Json.unescapedFields,
    unescapedFields_unlessNone, names, numbers, flags, Modulation.serialize_unescaped,
    DataRate.serialize_unescaped, CodeRate.serialize_unescaped, base64.unescaped, implies_true,
    Bool.and_self]

/-! ## Items of a downlink -/

/-- A bandwidth or channel width in whole kilohertz, and a coding rate that is defined. -/
def Regular : Gw.ModulationParameters → Prop
  | .lora v => v.bandwidth.toNat % 1000 = 0 ∧ v.getCodeRate ≠ .crUndefined
  | .fsk _ => True
  | .lrFhss v => v.operatingChannelWidth.toNat % 1000 = 0

/-- What the reader makes of an accepted item has the parameters of the item. -/
theorem PullResp.fromProto_parameters {dl : Gw.DownlinkFrame} {i : Nat} {token : UInt16}
    {resp : PullResp} {item : Gw.DownlinkFrameItem} {txInfo : Gw.DownlinkTxInfo}
    {parameters : Gw.ModulationParameters}
    (accepted : PullResp.fromProto profile dl i token = .ok resp)
    (found : dl.items[i]? = some item) (info : item.txInfo = some txInfo)
    (modulation : txInfo.modulation = some ⟨some parameters⟩) :
    resp.payload.txpk.datr = datrOf parameters ∧ resp.payload.txpk.codr = codrOf parameters ∧
      resp.payload.txpk.data = item.phyPayload := by
  simp only [PullResp.fromProto, found, info, modulation, Outcome.okOr_some, Outcome.ok_bind,
    Outcome.bind_eq_ok, Outcome.pure_eq, Outcome.ok.injEq] at accepted
  obtain ⟨_, _, _, _, _, _, _, _, rfl⟩ := accepted
  exact ⟨rfl, rfl, rfl⟩

theorem whole_of_regular {parameters : Gw.ModulationParameters} (regular : Regular parameters) :
    (datrOf parameters).Whole := by
  cases parameters with
  | lora v => exact regular.1
  | fsk v => trivial
  | lrFhss v => exact regular

theorem codrOf_ne_undefined {parameters : Gw.ModulationParameters}
    (regular : Regular parameters) : codrOf parameters ≠ some .undefined := by
  cases parameters with
  | lora v =>
      intro undefined
      have defined := regular.2
      cases rate : v.getCodeRate <;> simp_all [codrOf, CodeRate.fromProto]
  | _ => intro undefined; cases undefined

theorem codrOf_ne_crLi48_iff {parameters : Gw.ModulationParameters} :
    codrOf parameters ≠ some .crLi48 ↔
      ∀ v, parameters = .lora v → v.getCodeRate ≠ .crLi48 := by
  cases parameters with
  | lora v =>
      simp only [codrOf, ne_eq, Option.some.injEq, Gw.ModulationParameters.lora.injEq,
        forall_eq']
      cases v.getCodeRate <;> decide
  | _ => simp [codrOf]

variable (profile) in
/-- The `txpk` object is found in what is read of a payload. -/
theorem readPullResp_of_again {resp : PullResp} {b : List UInt8}
    (written : resp.toVec crates = .ok b)
    (json : ReadsJson crates (resp.payload.serialize crates))
    (base64 : ReadsBase64 crates resp.payload.txpk.data) :
    ∃ fields, Carries crates resp.payload.txpk fields ∧
      readPullResp crates profile b = ReadTxPk.ofFields crates profile fields := by
  obtain ⟨fields, serialized, carries⟩ := resp.payload.txpk.serialize_carries crates
  have plain : (resp.payload.serialize crates).unescaped = true := by
    have name : unescapedText "txpk" = true := by decide
    simp only [PullRespPayload.serialize, Json.unescaped, Json.unescapedFields, name,
      TxPk.serialize_unescaped base64, Bool.and_self]
  obtain ⟨again, read, same⟩ := json plain
  obtain ⟨outer, rfl, outerSame⟩ := Json.object_of_skeleton same
  have found : (outer.lookup "txpk").map Json.skeleton =
      some (resp.payload.txpk.serialize crates).skeleton := by
    rw [← Json.lookup_skeletonFields, outerSame]
    rfl
  obtain ⟨inner, inside, innerSame⟩ := Option.map_eq_some_iff.mp found
  rw [serialized] at innerSame
  obtain ⟨fields', rfl, fieldsSame⟩ := Json.object_of_skeleton innerSame
  have text : b.drop 4 = crates.writeJson (resp.payload.serialize crates) := by
    cases written
    rfl
  refine ⟨fields', carries.again fieldsSame, ?_⟩
  rw [readPullResp, text, read]
  simp only [fromJson, field_eq inside, ReadTxPk.deserialize]
  cases ReadTxPk.ofFields crates profile fields' <;> rfl

/-- An accepted item is read from the PULL_RESP as it was written, exactly if its coding rate is
not 4/8LI. -/
theorem pullResp_read_back_iff {dl : Gw.DownlinkFrame} {i : Nat} {token : UInt16}
    {resp : PullResp} {b : List UInt8} {item : Gw.DownlinkFrameItem}
    {txInfo : Gw.DownlinkTxInfo} {parameters : Gw.ModulationParameters}
    (accepted : PullResp.fromProto profile dl i token = .ok resp)
    (found : dl.items[i]? = some item) (info : item.txInfo = some txInfo)
    (modulation : txInfo.modulation = some ⟨some parameters⟩) (regular : Regular parameters)
    (written : resp.toVec crates = .ok b)
    (json : ReadsJson crates (resp.payload.serialize crates))
    (base64 : ReadsBase64 crates item.phyPayload) :
    readPullResp crates profile b = .ok resp.payload.txpk.shown ↔
      ∀ v, parameters = .lora v → v.getCodeRate ≠ .crLi48 := by
  obtain ⟨datr, codr, data⟩ := PullResp.fromProto_parameters accepted found info modulation
  rw [← data] at base64
  obtain ⟨fields, carries, read⟩ := readPullResp_of_again profile written json base64
  rw [read, ReadTxPk.ofFields_iff carries (datr ▸ whole_of_regular regular) base64.decodes
    (codr ▸ codrOf_ne_undefined regular), codr, codrOf_ne_crLi48_iff]

end

/-! ## A downlink with long interleaving -/

def longInterleavingParameters : Gw.ModulationParameters :=
  .lora { bandwidth := 125000, spreadingFactor := 7, codeRate := Gw.CodeRate.crLi48.toI32 }

def longInterleaving : Gw.DownlinkFrameItem where
  phyPayload := [0]
  txInfo := some {
    frequency := 868100000
    power := 14
    modulation := some ⟨some longInterleavingParameters⟩
    board := 0
    antenna := 0
    timing := some ⟨some .immediately⟩
    context := [] }

def longInterleavingFrame : Gw.DownlinkFrame where
  downlinkId := 1
  items := [longInterleaving]
  gatewayId := "0000000000000001"

def longInterleavingTxPk : TxPk where
  imme := true
  rfch := 0
  powe := 14
  ant := 0
  brd := 0
  tmst := none
  tmms := none
  freq := (868100000 : UInt32).toFloat / 1000000
  modu := .lora
  datr := .lora 7 125000
  codr := some .crLi48
  fdev := none
  ncrc := none
  ipol := some false
  prea := none
  size := 1
  data := [0]

def longInterleavingResp : PullResp := ⟨1, ⟨longInterleavingTxPk⟩⟩

/-- The text of its payload. -/
@[irreducible] def longInterleavingText : List UInt8 :=
  ascii "\x7b\"txpk\":\x7b\"imme\":true,\"rfch\":0,\"powe\":14,\"ant\":0,\"brd\":0,\"freq\":868.1," ++
    ascii "\"modu\":\"LORA\",\"datr\":\"SF7BW125\",\"codr\":\"4/5LI\",\"ipol\":false,\"size\":1," ++
    ascii "\"data\":\"AA==\"\x7d\x7d"

/-- Crates that write and read the payload. -/
def rereading : Crates :=
  let base : Crates :=
    { Crates.plain with base64Encode := fun _ => "AA==", base64Decode := fun _ => some [0] }
  { base with
    writeJson := fun _ => longInterleavingText
    readJson := fun _ => ⟨longInterleavingResp.payload.serialize base, false⟩ }

theorem longInterleaving_accepted (profile : Profile) :
    PullResp.fromProto profile longInterleavingFrame 0 1 = .ok longInterleavingResp := by
  rfl

theorem rereading_json : ReadsJson rereading (longInterleavingResp.payload.serialize rereading) :=
  fun _ => ⟨_, rfl, rfl⟩

theorem rereading_base64 : ReadsBase64 rereading longInterleaving.phyPayload where
  decodes := rfl
  alphabet := by
    intro c member
    have letters : c = 'A' ∨ c = '=' := by simpa [rereading] using member
    rcases letters with rfl | rfl <;> decide

theorem longInterleaving_regular : Regular longInterleavingParameters :=
  ⟨by decide, by decide⟩

theorem pullResp_read_back_iff_long_interleaving :
    readPullResp rereading .release
        ([protocolVersion] ++ u16ToLe 1 ++ [0x03] ++ longInterleavingText) =
        .ok longInterleavingTxPk.shown ↔
      ∀ v, longInterleavingParameters = .lora v → v.getCodeRate ≠ .crLi48 :=
  pullResp_read_back_iff (longInterleaving_accepted .release) rfl rfl rfl longInterleaving_regular
    rfl rereading_json rereading_base64

/-- The coding rate 4/8LI is read as 4/5LI. -/
theorem code_rate_misread :
    ¬ ∀ (crates : Crates) (profile : Profile) (dl : Gw.DownlinkFrame) (i : Nat) (token : UInt16)
      (resp : PullResp) (b : List UInt8) (item : Gw.DownlinkFrameItem)
      (txInfo : Gw.DownlinkTxInfo) (parameters : Gw.ModulationParameters),
      PullResp.fromProto profile dl i token = .ok resp → dl.items[i]? = some item →
      item.txInfo = some txInfo → txInfo.modulation = some ⟨some parameters⟩ →
      Regular parameters → resp.toVec crates = .ok b →
      ReadsJson crates (resp.payload.serialize crates) → ReadsBase64 crates item.phyPayload →
      readPullResp crates profile b = .ok resp.payload.txpk.shown := by
  intro readable
  have same := readable rereading .release longInterleavingFrame 0 1 longInterleavingResp _
    longInterleaving _ _ (longInterleaving_accepted .release) rfl rfl rfl longInterleaving_regular
    rfl rereading_json rereading_base64
  obtain ⟨fields, carries, read⟩ := readPullResp_of_again .release
    (show longInterleavingResp.toVec rereading = .ok _ from rfl) rereading_json rereading_base64
  have whole : longInterleavingTxPk.datr.Whole := by
    change (125000 : UInt32).toNat % 1000 = 0
    decide
  rw [read, ReadTxPk.ofFields_iff carries whole rfl (by decide)] at same
  exact same rfl

end MqttForwarder.SemtechUdp
