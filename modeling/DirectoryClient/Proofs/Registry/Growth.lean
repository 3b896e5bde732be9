import DirectoryClient.Proofs.Dn.Order
import DirectoryClient.Proofs.Registry
import Mathlib.Data.List.Induction
import Mathlib.Data.List.Pairwise

/-!
# How a registry grows

Servers join a registry when URLs are looked up in it.  Two URLs are alike if they mean the same
server; of URLs that are alike the first one brings a server at most.

* `LdapUrl.alike`          hosts up to letter case, ports and base names agree (`alike_trans`);
* `covers_congr`           a server covers both of two URLs that are alike, or none of them;
* `Registry.newcomers`     the URLs that bring servers (`existsUnique_newcomer`);
* `Registry.grown`         the servers after some URLs were looked up;
* `records_enrol`          looking up one more URL;
* `find?_enrol`            the answer is the first server that covers the URL;
* `find?_grown`            where that server came from.
-/

namespace DirectoryClient

open DirectoryClient.Text

/-! ## Sameness of contexts that may be missing -/

theorem sameContext_refl (x : Option Dn) : sameContext x x = true := by
  cases x with
  | none => rfl
  | some a => exact Dn.same_refl a

theorem sameContext_comm (x y : Option Dn) : sameContext x y = sameContext y x := by
  rcases x with _ | a <;> rcases y with _ | b
  · rfl
  · rfl
  · rfl
  · exact Dn.same_comm a b

theorem sameContext_iff {x y : Option Dn} : sameContext x y = true ↔
    (x = none ∧ y = none) ∨ ∃ a b, x = some a ∧ y = some b ∧ a.same b = true := by
  rcases x with _ | a <;> rcases y with _ | b <;> simp [sameContext]

theorem sameContext_trans {x y z : Option Dn} (hxy : sameContext x y = true)
    (hyz : sameContext y z = true) : sameContext x z = true := by
  rcases sameContext_iff.mp hxy with ⟨rfl, rfl⟩ | ⟨a, b, rfl, rfl, hab⟩
  · exact hyz
  · obtain ⟨c, rfl⟩ : ∃ c, z = some c := by cases z <;> simp [sameContext] at hyz ⊢
    exact Dn.same_trans hab hyz

/-! ## URLs that are alike -/

namespace LdapUrl

/-- whether two URLs mean the same server -/
def alike (schema : Schema) (u v : LdapUrl) : Bool :=
  sameIgnoringCase u.host v.host && u.port == v.port &&
    sameContext (contextOfUrl schema u) (contextOfUrl schema v)

variable {schema : Schema} {u v x : LdapUrl}

theorem alike_iff : u.alike schema v = true ↔
    asciiLower u.host.toList = asciiLower v.host.toList ∧ u.port = v.port ∧
      sameContext (contextOfUrl schema u) (contextOfUrl schema v) = true := by
  simp [alike, sameIgnoringCase, and_assoc]

theorem alike_refl (schema : Schema) (u : LdapUrl) : u.alike schema u = true :=
  alike_iff.mpr ⟨rfl, rfl, sameContext_refl _⟩

theorem alike_symm (h : u.alike schema v = true) : v.alike schema u = true := by
  obtain ⟨hh, hp, hc⟩ := alike_iff.mp h
  exact alike_iff.mpr ⟨hh.symm, hp.symm, by rw [sameContext_comm]; exact hc⟩

theorem alike_comm (schema : Schema) (u v : LdapUrl) : u.alike schema v = v.alike schema u :=
  Bool.eq_iff_iff.mpr ⟨alike_symm, alike_symm⟩

theorem alike_trans (huv : u.alike schema v = true) (hvx : v.alike schema x = true) :
    u.alike schema x = true := by
  obtain ⟨hh, hp, hc⟩ := alike_iff.mp huv
  obtain ⟨hh', hp', hc'⟩ := alike_iff.mp hvx
  exact alike_iff.mpr ⟨hh.trans hh', hp.trans hp', sameContext_trans hc hc'⟩

end LdapUrl

namespace ServerRecord

variable {schema : Schema} {u v : LdapUrl}

theorem covers_iff {r : ServerRecord} : r.covers schema u = true ↔
    asciiLower r.host.toList = asciiLower u.host.toList ∧ r.port = u.port ∧
      sameContext r.baseContext (contextOfUrl schema u) = true := by
  simp [covers, sameIgnoringCase, and_assoc]

/-- The server that a URL brings covers the URLs that are like it. -/
theorem covers_ofReferral (schema : Schema) (template : ServerRecord) (u v : LdapUrl) :
    (ofReferral schema template u).covers schema v = u.alike schema v := rfl

theorem covers_of_alike {r : ServerRecord} (h : u.alike schema v = true)
    (hr : r.covers schema u = true) : r.covers schema v = true := by
  obtain ⟨hh, hp, hc⟩ := LdapUrl.alike_iff.mp h
  obtain ⟨hh', hp', hc'⟩ := covers_iff.mp hr
  exact covers_iff.mpr ⟨hh'.trans hh, hp'.trans hp, sameContext_trans hc' hc⟩

theorem covers_congr (r : ServerRecord) (h : u.alike schema v = true) :
    r.covers schema u = r.covers schema v :=
  Bool.eq_iff_iff.mpr ⟨covers_of_alike h, covers_of_alike (LdapUrl.alike_symm h)⟩

end ServerRecord

/-! ## The first of each kind -/

/-- One more member at the end stays exactly if it is like none of those that stay. -/
theorem eraseDupsBy_append_singleton {α : Type} (r : α → α → Bool) (l : List α) (a : α) :
    (l ++ [a]).eraseDupsBy r =
      if (l.eraseDupsBy r).any (r a) then l.eraseDupsBy r else l.eraseDupsBy r ++ [a] := by
  have hloop (kept : List α) : List.eraseDupsBy.loop r (l ++ [a]) kept =
      if (List.eraseDupsBy.loop r l kept).any (r a) then List.eraseDupsBy.loop r l kept
      else List.eraseDupsBy.loop r l kept ++ [a] := by
    induction l generalizing kept with
    | nil =>
      rw [List.nil_append, List.eraseDupsBy.loop, List.eraseDupsBy.loop, List.any_reverse]
      cases kept.any (r a) <;> simp [List.eraseDupsBy.loop]
    | cons b l ih =>
      rw [List.cons_append, List.eraseDupsBy.loop, List.eraseDupsBy.loop]
      cases kept.any (r b) <;> exact ih _
  exact hloop []

theorem pairwise_eraseDupsBy {α : Type} (r : α → α → Bool) (l : List α) :
    (l.eraseDupsBy r).Pairwise fun a b => r b a = false := by
  induction l using List.reverseRecOn with
  | nil => exact .nil
  | append_singleton l a ih =>
    rw [eraseDupsBy_append_singleton]
    split
    · exact ih
    · next hany =>
      refine List.pairwise_append.mpr ⟨ih, List.pairwise_singleton _ _, fun b hb x hx => ?_⟩
      rw [List.mem_singleton.mp hx]
      exact Bool.eq_false_iff.mpr (List.any_eq_false.mp (Bool.eq_false_iff.mpr hany) b hb)

/-- Every member is like one of those that stay. -/
theorem exists_mem_eraseDupsBy {α : Type} {r : α → α → Bool} (hr : ∀ a, r a a = true)
    {l : List α} {a : α} (ha : a ∈ l) : ∃ b ∈ l.eraseDupsBy r, r a b = true := by
  induction l using List.reverseRecOn with
  | nil => cases ha
  | append_singleton l x ih =>
    rw [eraseDupsBy_append_singleton]
    rcases List.mem_append.mp ha with hl | hx
    · obtain ⟨b, hb, hab⟩ := ih hl
      refine ⟨b, ?_, hab⟩
      split
      · exact hb
      · exact List.mem_append_left _ hb
    · rw [List.mem_singleton.mp hx]
      split
      · next hany => exact List.any_eq_true.mp hany
      · exact ⟨x, List.mem_append_right _ List.mem_cons_self, hr x⟩

/-- Of all that are like something the first one stays. -/
theorem find?_eraseDupsBy {α : Type} {r : α → α → Bool}
    (ht : ∀ a b c, r a b = true → r b c = true → r a c = true) (l : List α) (a : α) :
    (l.eraseDupsBy r).find? (r a) = l.find? (r a) := by
  induction l using List.reverseRecOn with
  | nil => rfl
  | append_singleton l x ih =>
    rw [eraseDupsBy_append_singleton, List.find?_append, ← ih]
    split
    · next hany =>
      obtain ⟨b, hb, hxb⟩ := List.any_eq_true.mp hany
      cases hf : (l.eraseDupsBy r).find? (r a) with
      | some y => rfl
      | none =>
        -- `b` would have been found as well
        have hx : r a x = false := Bool.eq_false_iff.mpr fun hax =>
          List.find?_eq_none.mp hf b hb (ht a x b hax hxb)
        simp [hx]
    · rw [List.find?_append]

namespace Registry

/-- The URLs that bring servers, in the order in which they come: those that no known server covers,
and of URLs that are alike the first one. -/
def newcomers (schema : Schema) (known : List ServerRecord) (urls : List LdapUrl) :
    List LdapUrl :=
  (urls.filter fun u => !known.any (·.covers schema u)).eraseDupsBy (LdapUrl.alike schema)

/-- the known servers, the default one first, and those that the URLs bring -/
def grown (schema : Schema) (first : ServerRecord) (rest : List ServerRecord)
    (urls : List LdapUrl) : List ServerRecord :=
  (first :: rest) ++
    (newcomers schema (first :: rest) urls).map (.ofReferral schema first)

variable {r r' : Registry} {schema : Schema} {first : ServerRecord} {rest : List ServerRecord}
  {urls : List LdapUrl} {url : LdapUrl}

theorem newcomers_append_of_known {known : List ServerRecord}
    (h : known.any (·.covers schema url) = true) :
    newcomers schema known (urls ++ [url]) = newcomers schema known urls := by
  rw [newcomers, List.filter_append]
  simp [h, newcomers]

theorem newcomers_append_of_not_known {known : List ServerRecord}
    (h : known.any (·.covers schema url) = false) :
    newcomers schema known (urls ++ [url]) =
      if (newcomers schema known urls).any (url.alike schema) then newcomers schema known urls
      else newcomers schema known urls ++ [url] := by
  have hnew : [url].filter (fun u => !known.any (·.covers schema u)) = [url] := by simp [h]
  rw [newcomers, List.filter_append, hnew, eraseDupsBy_append_singleton]
  rfl

/-- Of each kind of URL that no known server covers there is one newcomer. -/
theorem existsUnique_newcomer {known : List ServerRecord} (hu : url ∈ urls)
    (hk : known.any (·.covers schema url) = false) :
    ∃! v, v ∈ newcomers schema known urls ∧ url.alike schema v = true := by
  have hmem : url ∈ urls.filter fun u => !known.any (·.covers schema u) :=
    List.mem_filter.mpr ⟨hu, by rw [hk]; rfl⟩
  obtain ⟨v, hv, ha⟩ := exists_mem_eraseDupsBy (LdapUrl.alike_refl schema) hmem
  refine ⟨v, ⟨hv, ha⟩, fun x ⟨hx, hax⟩ => ?_⟩
  by_contra hne
  have hxv : x.alike schema v = true := LdapUrl.alike_trans (LdapUrl.alike_symm hax) ha
  have : Std.Symm fun a b : LdapUrl => b.alike schema a = false :=
    ⟨fun a b hab => (LdapUrl.alike_comm schema a b).trans hab⟩
  have hvx := (pairwise_eraseDupsBy (LdapUrl.alike schema) _).forall hv hx (Ne.symm hne)
  rw [hvx] at hxv
  cases hxv

theorem any_covers_grown :
    (grown schema first rest urls).any (·.covers schema url) =
      ((first :: rest).any (·.covers schema url) ||
        (newcomers schema (first :: rest) urls).any (url.alike schema)) := by
  rw [grown, List.any_append, List.any_map]
  simp only [Function.comp_def, ServerRecord.covers_ofReferral, LdapUrl.alike_comm schema _ url]

/-- The newcomer that is like a URL is the first of the URLs that are. -/
theorem find?_newcomers {known : List ServerRecord}
    (hk : known.any (·.covers schema url) = false) :
    (newcomers schema known urls).find? (url.alike schema) = urls.find? (url.alike schema) := by
  have ht (a b c : LdapUrl) (hab : a.alike schema b = true) (hbc : b.alike schema c = true) :
      a.alike schema c = true := LdapUrl.alike_trans hab hbc
  rw [newcomers, find?_eraseDupsBy ht, List.find?_filter]
  refine congrArg (List.find? · urls) (funext fun v => ?_)
  cases ha : url.alike schema v with
  | false => simp
  | true =>
    have hv : known.any (·.covers schema v) = false := by
      rw [← hk]
      exact congrArg known.any (funext fun x => (x.covers_congr ha).symm)
    rw [hv]
    rfl

/-- The first server to cover a URL is a known one, or the first URL that is like it brought it. -/
theorem find?_grown :
    (grown schema first rest urls).find? (·.covers schema url) =
      ((first :: rest).find? (·.covers schema url)).or
        ((urls.find? (url.alike schema)).map (.ofReferral schema first)) := by
  rw [grown, List.find?_append]
  cases hk : (first :: rest).find? (·.covers schema url) with
  | some x => rfl
  | none =>
    have hany : (first :: rest).any (·.covers schema url) = false :=
      List.any_eq_false.mpr (List.find?_eq_none.mp hk)
    have hlike : (fun x : ServerRecord => x.covers schema url) ∘ .ofReferral schema first =
        url.alike schema := funext fun v => LdapUrl.alike_comm schema v url
    rw [List.find?_map, hlike, find?_newcomers hany]

/-- One more URL brings a server exactly if nothing covers it yet. -/
theorem grown_append (schema : Schema) (first : ServerRecord) (rest : List ServerRecord)
    (urls : List LdapUrl) (url : LdapUrl) :
    grown schema first rest (urls ++ [url]) =
      if (grown schema first rest urls).any (·.covers schema url) then
        grown schema first rest urls
      else grown schema first rest urls ++ [.ofReferral schema first url] := by
  rw [any_covers_grown]
  cases hk : (first :: rest).any (·.covers schema url) with
  | true => rw [grown, newcomers_append_of_known hk, Bool.true_or, if_pos rfl, grown]
  | false =>
    rw [grown, newcomers_append_of_not_known hk, Bool.false_or, grown]
    cases (newcomers schema (first :: rest) urls).any (url.alike schema) <;> simp

theorem find?_eq_none_iff : r.find? schema url = none ↔
    r.records.any (·.covers schema url) = false := by
  rw [find?, List.findIdx?_eq_none_iff, List.any_eq_false]
  simp

theorem records_mk (first : ServerRecord) (rest : List ServerRecord) :
    Registry.records ⟨{ record := first }, rest.map ({ record := · })⟩ = first :: rest := by
  simp [records, servers, Function.comp_def]

theorem records_push (r : Registry) (x : ServerRecord) : (r.push x).records = r.records ++ [x] := by
  rw [records, servers_push, List.map_append]
  rfl

/-- **A look-up takes a registry that has grown by some URLs to one that has grown by one more.** -/
theorem records_enrol (h : r.records = grown schema first rest urls) (url : LdapUrl) :
    (r.enrol schema url).2.records = grown schema first rest (urls ++ [url]) := by
  have hfirst : r.first.record = first := (List.cons.inj h).1
  rw [grown_append, ← h]
  rcases r.enrol_cases schema url with ⟨i, -, hf, he⟩ | ⟨hf, he⟩ <;> rw [he]
  · have hany : r.records.any (·.covers schema url) = true := by
      refine (Bool.not_eq_false _).mp fun hn => ?_
      rw [find?_eq_none_iff.mpr hn] at hf
      cases hf
    rw [hany, if_pos rfl]
  · rw [find?_eq_none_iff.mp hf, records_push, hfirst]
    rfl

theorem isPrefix_enrol (r : Registry) (schema : Schema) (url : LdapUrl) :
    r.records <+: (r.enrol schema url).2.records := by
  rcases r.enrol_cases schema url with ⟨i, -, -, he⟩ | ⟨-, he⟩
  · exact ⟨[], by rw [List.append_nil, he]⟩
  · rw [he, records_push]
    exact List.prefix_append _ _

/-- What is found stays where it is while servers join at the end. -/
theorem find?_of_prefix {i : Nat} (hp : r.records <+: r'.records)
    (h : r.find? schema url = some i) : r'.find? schema url = some i := by
  obtain ⟨more, hmore⟩ := hp
  rw [find?] at h
  rw [find?, ← hmore, List.findIdx?_append, h]
  rfl

theorem find?_enrol (r : Registry) (schema : Schema) (url : LdapUrl) :
    (r.enrol schema url).2.find? schema url = some (r.enrol schema url).1 := by
  rcases r.enrol_cases schema url with ⟨i, -, hf, he⟩ | ⟨hf, he⟩ <;> rw [he]
  · exact hf
  · have hself : (ServerRecord.ofReferral schema r.first.record url).covers schema url = true :=
      url.alike_refl schema
    rw [find?] at hf
    rw [find?, records_push, List.findIdx?_append, hf, size_eq_length_records]
    simp [hself]

theorem find?_records {i : Nat} (h : r.find? schema url = some i) :
    r.records.find? (·.covers schema url) = some (r.server i).record := by
  obtain ⟨hi, hc, hmin⟩ := List.findIdx?_eq_some_iff_getElem.mp h
  have hi' : i < r.servers.length := by rwa [← size, size_eq_length_records]
  have hx : r.records[i] = (r.server i).record := by
    rw [server, List.getElem?_eq_getElem hi', Option.getD_some]
    exact List.getElem_map _
  refine List.find?_eq_some_iff_getElem.mpr ⟨hx ▸ hc, i, hi, hx, fun j hj => ?_⟩
  simpa using hmin j hj

theorem find?_congr {v : LdapUrl} (r : Registry) (h : url.alike schema v = true) :
    r.find? schema url = r.find? schema v := by
  rw [find?, find?]
  exact congrArg (fun p => List.findIdx? p r.records) (funext fun x => x.covers_congr h)

end Registry

end DirectoryClient
