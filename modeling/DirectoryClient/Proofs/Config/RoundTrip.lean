import DirectoryClient.Config.Exchange
import DirectoryClient.Proofs.Attempts
import DirectoryClient.Proofs.Json.RoundTrip

/-!
# Written configurations are read back

* `membersOf`             the members of a record, from what it writes for each of its names;
* `Sets`                  the fields of a record set by what was written for them, one by one;
* `Shape.read_of_sets`    a record is read from its members;
* `ofJson_toJson`         each part of a configuration is read from its JSON value;
* `readable_toJson`       the JSON value of a configuration is read from its text;
* `Config.read_written`   a configuration is read from its text.
-/

namespace DirectoryClient

open DirectoryClient.Json

namespace Json

/-! ## Records -/

/-- The members of a record; nothing is written for a name without a value. -/
def membersOf (slots : List (String × Option Json)) : List (String × Json) :=
  slots.filterMap fun slot => slot.2.map (slot.1, ·)

section
variable {slots : List (String × Option Json)} {name : String} {o : Option Json}

theorem membersOf_cons (slot : String × Option Json) :
    membersOf (slot :: slots) = (slot.2.map (slot.1, ·)).toList ++ membersOf slots := by
  obtain ⟨name, _ | j⟩ := slot <;> rfl

theorem membersOf_nil : membersOf [] = [] := rfl

theorem optionalMember_eq {α : Type} (name : String) (write : α → Json) (a : Option α) :
    optionalMember name write a = ((a.map write).map (name, ·)).toList := by
  cases a <;> rfl

theorem names_membersOf : ((membersOf slots).map Prod.fst).Sublist (slots.map Prod.fst) := by
  induction slots with
  | nil => exact .slnil
  | cons slot slots ih =>
    rw [membersOf_cons, List.map_append, List.map_cons]
    obtain ⟨name, _ | j⟩ := slot
    · exact ih.cons name
    · exact ih.cons_cons name

theorem lookup_eq_none {members : List (String × Json)} (h : name ∉ members.map Prod.fst) :
    lookup name members = none := by
  induction members with
  | nil => rfl
  | cons m members ih =>
    rw [List.map_cons, List.mem_cons, not_or] at h
    rw [lookup, ih h.2]
    exact if_neg (Ne.symm h.1)

/-- If no name occurs twice, a name has the value that was written for it. -/
theorem lookup_membersOf (hnames : (slots.map Prod.fst).Nodup) (h : (name, o) ∈ slots) :
    lookup name (membersOf slots) = o := by
  induction slots with
  | nil => cases h
  | cons slot slots ih =>
    obtain ⟨hnew, hrest⟩ := List.nodup_cons.mp hnames
    rw [membersOf_cons]
    rcases List.mem_cons.mp h with rfl | h
    · have hnone : lookup name (membersOf slots) = none :=
        lookup_eq_none fun hm => hnew (names_membersOf.subset hm)
      cases o with
      | none => exact hnone
      | some j =>
        show lookup name ((name, j) :: membersOf slots) = some j
        rw [lookup, hnone]
        exact if_pos rfl
    · have hne : slot.1 ≠ name := fun he => hnew (he ▸ List.mem_map_of_mem h)
      rw [← ih hrest h]
      obtain ⟨key, _ | j⟩ := slot
      · rfl
      · show lookup name ((key, j) :: membersOf slots) = _
        rw [lookup, if_neg hne]
        cases lookup name (membersOf slots) <;> rfl

end

/-! ## Fields -/

section
variable {α β : Type} {slots : List (String × Option Json)} {f : Field α} {fields : List (Field α)}
  {a b c : α}

/-- The fields of a record are set to what was written for them, one after the other. -/
inductive Sets (slots : List (String × Option Json)) : List (Field α) → α → α → Prop
  | done (a : α) : Sets slots [] a a
  | given {f : Field α} {fields : List (Field α)} {j : Json} {a b c : α}
      (hslot : (f.name, some j) ∈ slots) (hset : f.set j a = .ok b)
      (h : Sets slots fields b c) : Sets slots (f :: fields) a c
  /-- nothing was written -/
  | unset {f : Field α} {fields : List (Field α)} {a c : α} (hslot : (f.name, none) ∈ slots)
      (hf : f.required = false) (h : Sets slots fields a c) : Sets slots (f :: fields) a c

theorem setFields_cons (members : List (String × Json)) {o : Option Json}
    (ho : lookup f.name members = o) :
    setFields members a (f :: fields) =
      ((o.elim (.ok a) fun j => f.set j a) >>= fun b => setFields members b fields) := by
  rw [setFields, List.foldlM_cons, ho]
  cases o <;> rfl

namespace Sets

theorem setFields_eq (hnames : (slots.map Prod.fst).Nodup) (h : Sets slots fields a c) :
    setFields (membersOf slots) a fields = .ok c := by
  induction h with
  | done a => rfl
  | given hslot hset h ih =>
    rw [setFields_cons _ (lookup_membersOf hnames hslot), Option.elim_some, hset]
    exact ih
  | unset hslot hf h ih =>
    rw [setFields_cons _ (lookup_membersOf hnames hslot)]
    exact ih

theorem not_missing (hnames : (slots.map Prod.fst).Nodup) (h : Sets slots fields a c) :
    fields.find? (fun f => f.required && (lookup f.name (membersOf slots)).isNone) = none := by
  induction h with
  | done a => rfl
  | given hslot hset h ih =>
    rw [List.find?_cons_of_neg, ih]
    rw [lookup_membersOf hnames hslot, Option.isNone_some, Bool.and_false]
    exact Bool.false_ne_true
  | unset hslot hf h ih =>
    rw [List.find?_cons_of_neg, ih]
    rw [hf, Bool.false_and]
    exact Bool.false_ne_true

/-- A field that was written is set to what is read. -/
theorem plain {name : String} {read : Json → Reading β} {store : β → α → α} (write : β → Json)
    (x : β) (hslot : (name, some (write x)) ∈ slots) (hread : read (write x) = .ok x)
    (h : Sets slots fields (store x a) c) : Sets slots (.of name read store :: fields) a c := by
  refine .given (f := .of name read store) hslot ?_ h
  show (read (write x)).map (store · a) = _
  rw [hread]
  rfl

/-- An option is set, or left without a value. -/
theorem option {name : String} {read : Json → Reading β} {store : Option β → α → α}
    (write : β → Json) (o : Option β) (hslot : (name, o.map write) ∈ slots)
    (hread : ∀ x, asOption read (write x) = .ok (some x)) (hnone : store none a = a)
    (h : Sets slots fields (store o a) c) :
    Sets slots (.of name (asOption read) store :: fields) a c := by
  cases o with
  | none => exact .unset (f := .of name (asOption read) store) hslot rfl (hnone ▸ h)
  | some x =>
    have hset : (Field.of name (asOption read) store).set (write x) a = .ok (store (some x) a) := by
      show (asOption read (write x)).map (store · a) = _
      rw [hread]
      rfl
    exact .given hslot hset h

end Sets

/-- A record is read from its members if each of its fields is set by what was written for it. -/
theorem Shape.read_of_sets {s : Shape α} (hnames : slots.map Prod.fst = s.declared)
    (hs : s.declared.Nodup) (h : Sets slots s.fields a c) :
    s.read a (.obj (membersOf slots)) = .ok c := by
  rw [← hnames] at hs
  rw [Shape.read, h.setFields_eq hs, h.not_missing hs]
  rfl

end

/-! ## Plain values -/

theorem asWhole_int {kind : String} {low high n : Int} (h : low ≤ n ∧ n ≤ high) :
    asWhole kind low high (.int n) = .ok n := if_pos h

theorem asWhole_natCast {kind : String} {size n : Nat} (h : n < size) :
    asWhole kind 0 (size - 1) (.int n) = .ok (n : Int) := asWhole_int ⟨by omega, by omega⟩

theorem asUInt16_portJson (n : UInt16) : asUInt16 (portJson n) = .ok n := by
  rw [asUInt16, portJson, asWhole_natCast n.toNat_lt]
  exact congrArg Except.ok (UInt16.ofNat_toNat)

theorem asUInt32_int (n : UInt32) : asUInt32 (.int n.toNat) = .ok n := by
  rw [asUInt32, asWhole_natCast n.toNat_lt]
  exact congrArg Except.ok (UInt32.ofNat_toNat)

theorem asUInt64_wordJson (n : UInt64) : asUInt64 (wordJson n) = .ok n := by
  rw [asUInt64, wordJson, asWhole_natCast n.toNat_lt]
  exact congrArg Except.ok (UInt64.ofNat_toNat)

theorem asInt32_int (n : Int32) : asInt32 (.int n.toInt) = .ok n := by
  have hn : Int32.minValue.toInt ≤ n.toInt ∧ n.toInt ≤ Int32.maxValue.toInt := by
    have hmin : Int32.minValue.toInt = -2 ^ 31 := rfl
    have hmax : Int32.maxValue.toInt = 2 ^ 31 - 1 := rfl
    have hle := n.le_toInt
    have hlt := n.toInt_lt
    omega
  rw [asInt32, asWhole_int hn]
  exact congrArg Except.ok (Int32.ofInt_toInt n)

theorem asList_map {α : Type} {read : Json → Reading α} {write : α → Json}
    (h : ∀ a, read (write a) = .ok a) (l : List α) :
    asList read (.arr (l.map write)) = .ok l := by
  show (l.map write).mapM read = .ok l
  rw [mapM_eq_ok_iff, List.forall₂_map_left_iff]
  exact List.forall₂_same.mpr fun a _ => h a

theorem asList_strings (l : List String) : asList asString (.strings l) = .ok l := by
  have hs (s : String) : asString (.str s) = .ok s := rfl
  exact asList_map hs l

/-- An option with a value is read as the value is. -/
theorem asOption_of_ok {α : Type} {read : Json → Reading α} {j : Json} {a : α} (hj : j ≠ .null)
    (h : read j = .ok a) : asOption read j = .ok (some a) := by
  have hmap : asOption read j = (read j).map some := by
    cases j <;> first | rfl | exact absurd rfl hj
  rw [hmap, h]
  rfl

theorem asOption_str (s : String) : asOption asString (.str s) = .ok (some s) := rfl

end Json

/-! ## The parts of a configuration from their JSON values -/

theorem Security.ofJson_toJson (s : Security) : ofJson s.toJson = .ok s := by
  have hname : ofName s.name = .ok s := by rw [ofName, parse?_name]
  rw [toJson, ofJson, asString, Except.bind, hname]

theorem ReferralStrategy.ofJson_toJson (s : ReferralStrategy) : ofJson s.toJson = .ok s := by
  cases s <;> rfl

def Timeouts.slots (t : Timeouts) : List (String × Option Json) :=
  [("connection_timeout_secs", some (wordJson t.connection)),
    ("operation_timeout_secs", some (wordJson t.operation))]

theorem Timeouts.toJson_eq (t : Timeouts) : t.toJson = .obj (membersOf t.slots) := rfl

theorem Timeouts.ofJson_toJson (t : Timeouts) : ofJson t.toJson = .ok t := by
  have hsets : Sets t.slots shape.fields {} t := by
    refine .plain wordJson t.connection (by simp [slots]) (asUInt64_wordJson _) ?_
    refine .plain wordJson t.operation (by simp [slots]) (asUInt64_wordJson _) ?_
    exact .done t
  rw [toJson_eq]
  exact Shape.read_of_sets rfl (by decide) hsets

def Tls.slots (t : Tls) : List (String × Option Json) :=
  [("verify_certificate", some (.bool t.verifyCertificate)),
    ("ca_cert_path", t.caCertPath.map .str), ("ssl_protocol", t.sslProtocol.map .str),
    ("enabled_protocols", some (.strings t.enabledProtocols)),
    ("enabled_cipher_suites", some (.strings t.enabledCipherSuites))]

theorem Tls.toJson_eq (t : Tls) : t.toJson = .obj (membersOf t.slots) := by
  simp [toJson, slots, membersOf_cons, membersOf_nil, optionalMember_eq]

theorem Tls.ofJson_toJson (t : Tls) : ofJson t.toJson = .ok t := by
  have hsets : Sets t.slots shape.fields {} t := by
    refine .option .str t.caCertPath (by simp [slots]) asOption_str rfl ?_
    refine .plain .strings t.enabledCipherSuites (by simp [slots]) (asList_strings _) ?_
    refine .plain .strings t.enabledProtocols (by simp [slots]) (asList_strings _) ?_
    refine .option .str t.sslProtocol (by simp [slots]) asOption_str rfl ?_
    refine .plain .bool t.verifyCertificate (by simp [slots]) rfl ?_
    exact .done t
  rw [toJson_eq]
  exact Shape.read_of_sets rfl (by decide) hsets

def RetryPolicy.slots (p : RetryPolicy) : List (String × Option Json) :=
  [("max_attempts", p.maxAttempts.map fun n => .int n.toNat),
    ("initial_delay_ms", some (wordJson p.initialDelay)),
    ("max_delay_ms", some (wordJson p.maxDelay)),
    ("backoff_multiplier", some (.float p.multiplier)), ("jitter", some (.bool p.jitter))]

theorem RetryPolicy.toJson_eq (p : RetryPolicy) : p.toJson = .obj (membersOf p.slots) := by
  simp [toJson, slots, membersOf_cons, membersOf_nil, optionalMember_eq]

theorem RetryPolicy.ofJson_toJson (p : RetryPolicy) : ofJson p.toJson = .ok p := by
  have hattempts (n : UInt32) : asOption asUInt32 (.int n.toNat) = .ok (some n) :=
    asOption_of_ok nofun (asUInt32_int n)
  have hsets : Sets p.slots shape.fields {} p := by
    refine .plain .float p.multiplier (by simp [slots]) rfl ?_
    refine .plain wordJson p.initialDelay (by simp [slots]) (asUInt64_wordJson _) ?_
    refine .plain .bool p.jitter (by simp [slots]) rfl ?_
    refine .option (fun n => .int n.toNat) p.maxAttempts (by simp [slots]) hattempts rfl ?_
    refine .plain wordJson p.maxDelay (by simp [slots]) (asUInt64_wordJson _) ?_
    exact .done p
  rw [toJson_eq]
  exact Shape.read_of_sets rfl (by decide) hsets

theorem asOption_portJson (n : UInt16) : asOption asUInt16 (portJson n) = .ok (some n) :=
  asOption_of_ok nofun (asUInt16_portJson n)

def ServerConfig.slots (s : ServerConfig) : List (String × Option Json) :=
  [("host", some (.str s.host)), ("port", s.port.map portJson),
    ("connection_security", s.security.map Security.toJson),
    ("base_context", s.baseContext.map .str), ("bind_dn", s.bindDn.map .str),
    ("bind_password", s.bindPassword.map .str),
    ("connect_timeout_secs", s.connectTimeout.map wordJson)]

theorem ServerConfig.toJson_eq (s : ServerConfig) : s.toJson = .obj (membersOf s.slots) := by
  simp [toJson, slots, membersOf_cons, membersOf_nil, optionalMember_eq]

theorem ServerConfig.ofJson_toJson (s : ServerConfig) : ofJson s.toJson = .ok s := by
  have htimeout (n : UInt64) : asOption asUInt64 (wordJson n) = .ok (some n) :=
    asOption_of_ok nofun (asUInt64_wordJson n)
  have hsecurity (x : Security) : asOption Security.ofJson x.toJson = .ok (some x) :=
    asOption_of_ok nofun x.ofJson_toJson
  have hsets : Sets s.slots shape.fields {} s := by
    refine .option .str s.baseContext (by simp [slots]) asOption_str rfl ?_
    refine .option .str s.bindDn (by simp [slots]) asOption_str rfl ?_
    refine .option .str s.bindPassword (by simp [slots]) asOption_str rfl ?_
    refine .option wordJson s.connectTimeout (by simp [slots]) htimeout rfl ?_
    refine .option Security.toJson s.security (by simp [slots]) hsecurity rfl ?_
    refine .given (j := .str s.host) (by simp [slots, Field.of]) rfl ?_
    refine .option portJson s.port (by simp [slots]) asOption_portJson rfl ?_
    exact .done s
  rw [toJson_eq]
  exact Shape.read_of_sets rfl (by decide) hsets

def Config.slots (c : Config) : List (String × Option Json) :=
  [("host", some (.str c.host)), ("port", c.port.map portJson),
    ("connection_security", some c.security.toJson),
    ("base_context", c.baseContext.map .str), ("bind_dn", some (.str c.bindDn)),
    ("bind_password", c.bindPassword.map .str), ("connection", some c.timeouts.toJson),
    ("tls", some c.tls.toJson), ("servers", some (.arr (c.servers.map ServerConfig.toJson))),
    ("referral_strategy", some c.referralStrategy.toJson),
    ("allow_partial_results", some (.bool c.allowPartialResults)),
    ("size_limit", some (.int c.sizeLimit.toInt)), ("time_limit", some (.int c.timeLimit.toInt)),
    ("binary_attributes", some (.strings c.binaryAttributes)), ("retry", some c.retry.toJson)]

theorem Config.toJson_eq (c : Config) : c.toJson = .obj (membersOf c.slots) := by
  simp [toJson, slots, membersOf_cons, membersOf_nil, optionalMember_eq]

/-- **A configuration is read from its JSON value.** -/
theorem Config.ofJson_toJson (c : Config) : ofJson c.toJson = .ok c := by
  have hsets : Sets c.slots shape.fields {} c := by
    refine .plain .bool c.allowPartialResults (by simp [slots]) rfl ?_
    refine .option .str c.baseContext (by simp [slots]) asOption_str rfl ?_
    refine .plain .strings c.binaryAttributes (by simp [slots]) (asList_strings _) ?_
    refine .plain .str c.bindDn (by simp [slots]) rfl ?_
    refine .option .str c.bindPassword (by simp [slots]) asOption_str rfl ?_
    refine .plain Timeouts.toJson c.timeouts (by simp [slots]) c.timeouts.ofJson_toJson ?_
    refine .plain Security.toJson c.security (by simp [slots]) c.security.ofJson_toJson ?_
    refine .given (j := .str c.host) (by simp [slots, Field.of]) rfl ?_
    refine .option portJson c.port (by simp [slots]) asOption_portJson rfl ?_
    refine .plain ReferralStrategy.toJson c.referralStrategy (by simp [slots])
      c.referralStrategy.ofJson_toJson ?_
    refine .plain RetryPolicy.toJson c.retry (by simp [slots]) c.retry.ofJson_toJson ?_
    refine .plain (fun l => .arr (l.map ServerConfig.toJson)) c.servers (by simp [slots])
      (asList_map ServerConfig.ofJson_toJson _) ?_
    refine .plain (fun n => .int n.toInt) c.sizeLimit (by simp [slots]) (asInt32_int _) ?_
    refine .plain (fun n => .int n.toInt) c.timeLimit (by simp [slots]) (asInt32_int _) ?_
    refine .plain Tls.toJson c.tls (by simp [slots]) c.tls.ofJson_toJson ?_
    exact .done c
  rw [toJson_eq]
  exact Shape.read_of_sets rfl (by decide) hsets

/-! ## JSON values from their texts -/

namespace Json

section
variable {α : Type} {slots : List (String × Option Json)}

theorem mem_of_mem_membersOf {m : String × Json} (h : m ∈ membersOf slots) :
    (m.1, some m.2) ∈ slots := by
  obtain ⟨⟨name, o⟩, hslot, hm⟩ := List.mem_filterMap.mp h
  obtain ⟨j, rfl, rfl⟩ := Option.map_eq_some_iff.mp hm
  exact hslot

/-- A record is read from its text if what it writes is. -/
theorem readable_membersOf (names : List String) (hnames : slots.map Prod.fst = names)
    (hs : names.Nodup) (h : ∀ slot ∈ slots, ∀ j ∈ slot.2, Readable j) :
    Readable (.obj (membersOf slots)) := by
  rw [← hnames] at hs
  exact .obj (names_membersOf.nodup hs) fun m hm => h _ (mem_of_mem_membersOf hm) m.2 rfl

theorem readable_some {j : Json} (h : Readable j) : ∀ i ∈ some j, Readable i := by
  rintro i ⟨⟩
  exact h

theorem readable_map {write : α → Json} (h : ∀ a, Readable (write a)) (o : Option α) :
    ∀ j ∈ o.map write, Readable j := by
  intro j hj
  obtain ⟨a, -, rfl⟩ := Option.map_eq_some_iff.mp hj
  exact h a

theorem readable_list {write : α → Json} (h : ∀ a, Readable (write a)) (l : List α) :
    Readable (.arr (l.map write)) :=
  .arr (List.forall_mem_map.mpr fun a _ => h a)

end

theorem readable_strings (l : List String) : Readable (.strings l) := readable_list .str l

theorem readable_wordJson (n : UInt64) : Readable (wordJson n) := .int (fitsWord_natCast n.toNat_lt)

theorem readable_portJson (n : UInt16) : Readable (portJson n) :=
  .int (fitsWord_natCast (n.toNat_lt.trans (by decide)))

theorem readable_int32 (n : Int32) : Readable (.int n.toInt) := by
  have hn : FitsWord n.toInt := by
    have hle := n.le_toInt
    have hlt := n.toInt_lt
    have hsize : UInt64.size = 2 ^ 64 := rfl
    exact ⟨by omega, by omega⟩
  exact .int hn

end Json

theorem Timeouts.readable_toJson (t : Timeouts) : Readable t.toJson := by
  rw [toJson_eq]
  refine readable_membersOf shape.declared rfl (by decide) ?_
  simp only [slots, List.forall_mem_cons]
  exact ⟨readable_some (readable_wordJson _), readable_some (readable_wordJson _), nofun⟩

theorem Tls.readable_toJson (t : Tls) : Readable t.toJson := by
  rw [toJson_eq]
  refine readable_membersOf shape.declared rfl (by decide) ?_
  simp only [slots, List.forall_mem_cons]
  exact ⟨readable_some (.bool _), readable_map .str _, readable_map .str _,
    readable_some (readable_strings _), readable_some (readable_strings _), nofun⟩

theorem RetryPolicy.readable_toJson (p : RetryPolicy) (h : ReadsBack p.multiplier) :
    Readable p.toJson := by
  have hattempts (n : UInt32) : Readable (.int n.toNat) :=
    .int (fitsWord_natCast (n.toNat_lt.trans (by decide)))
  rw [toJson_eq]
  refine readable_membersOf shape.declared rfl (by decide) ?_
  simp only [slots, List.forall_mem_cons]
  exact ⟨readable_map hattempts _, readable_some (readable_wordJson _),
    readable_some (readable_wordJson _), readable_some (.float h), readable_some (.bool _), nofun⟩

theorem ServerConfig.readable_toJson (s : ServerConfig) : Readable s.toJson := by
  rw [toJson_eq]
  refine readable_membersOf shape.declared rfl (by decide) ?_
  simp only [slots, List.forall_mem_cons]
  exact ⟨readable_some (.str _), readable_map readable_portJson _,
    readable_map (fun x : Security => .str x.name) _, readable_map .str _, readable_map .str _,
    readable_map .str _, readable_map readable_wordJson _, nofun⟩

theorem Config.readable_toJson (c : Config) (h : ReadsBack c.retry.multiplier) :
    Readable c.toJson := by
  rw [toJson_eq]
  refine readable_membersOf shape.declared rfl (by decide) ?_
  simp only [slots, List.forall_mem_cons]
  exact ⟨readable_some (.str _), readable_map readable_portJson _, readable_some (.str _),
    readable_map .str _, readable_some (.str _), readable_map .str _,
    readable_some c.timeouts.readable_toJson, readable_some c.tls.readable_toJson,
    readable_some (readable_list ServerConfig.readable_toJson _), readable_some (.str _),
    readable_some (.bool _), readable_some (readable_int32 _), readable_some (readable_int32 _),
    readable_some (readable_strings _), readable_some (c.retry.readable_toJson h), nofun⟩

/-! ## Configurations from their texts -/

/-- **A written configuration is read back**: its text is JSON, and the configuration that is read
from it is the one that was written, whatever is set in it and whatever is left out. -/
theorem Config.read_written (c : Config) (h : ReadsBack c.retry.multiplier) :
    (parse (compact c.toJson)).map Config.ofJson = some (.ok c) := by
  rw [parse_compact (c.readable_toJson h), Option.map_some, ofJson_toJson]

/-- a server with a replica; some of what can be set is set -/
def Config.replicated : Config where
  host := "ldap.example.org"
  port := some 3269
  security := .tls
  bindDn := "cn=\"reader\",dc=example,dc=org"
  bindPassword := some "a\\b\tc"
  servers := [{ host := "replica.example.org", baseContext := some "dc=example,dc=org" }]
  sizeLimit := -1

theorem Config.read_written_replicated :
    ReadsBack replicated.retry.multiplier ∧
      (parse (compact replicated.toJson)).map Config.ofJson = some (.ok replicated) := by
  have h : ReadsBack replicated.retry.multiplier := readsBack_two
  exact ⟨h, Config.read_written replicated h⟩

end DirectoryClient
