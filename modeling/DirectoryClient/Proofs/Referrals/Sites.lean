import DirectoryClient.Proofs.Registry.Growth
import DirectoryClient.Proofs.Run.Sessions.Basic
import DirectoryClient.Proofs.Search.Stages

/-!
# Servers that answer every search alike

A network in which servers can always be reached and give every search the same responses and the
same result.

* `Site`               where a server is found, whatever the case of its host;
* `Posting`            what a server answers to searches;
* `Contacts`           which sessions and cursors are open, and at which site;
* `Transport.Serves`   a network of servers with such answers;
* `World.Idle`         nothing changes but the network, which stays in contact;
* `Manager.Among`      all servers that are known are of the network;
* `Among.connectServer`, `Among.connection`   servers that are known can be connected;
* `Refers`             a site refers to another one;
* `connectReferral_of_drawn`, `connectReferral_cases`   a referral leads to the site of the URL
                       that is drawn.
-/

namespace DirectoryClient

open Relation Text

/-! ## Sites -/

structure Site where
  host : String
  port : UInt16
  deriving DecidableEq, Inhabited

def Site.of (host : String) (port : UInt16) : Site := ⟨asciiLowered host, port⟩

def ServerRecord.site (r : ServerRecord) : Site := .of r.host r.port

def LdapUrl.site (u : LdapUrl) : Site := .of u.host u.port

def Settings.site (s : Settings) : Site := .of s.host s.port

theorem site_of_covers {schema : Schema} {r : ServerRecord} {url : LdapUrl}
    (h : r.covers schema url = true) : r.site = url.site := by
  simp only [ServerRecord.covers, sameIgnoringCase, Bool.and_eq_true, beq_iff_eq] at h
  obtain ⟨⟨hhost, hport⟩, -⟩ := h
  rw [ServerRecord.site, LdapUrl.site, Site.of, Site.of, asciiLowered, asciiLowered, hhost, hport]

/-! ## Networks -/

structure Posting where
  responses : List Response
  result : LdapResult

structure Contacts (N : Type) where
  /-- a session is open at a site -/
  opened : N → SessionId → Site → Prop
  /-- a cursor of a site has these responses still to give -/
  reading : N → CursorId → Site → List Response → Prop
  /-- a cursor of a site has said that there are no more responses -/
  read : N → CursorId → Site → Prop

/-- no session is lost -/
def Contacts.Keeps {N : Type} (k : Contacts N) (n n' : N) : Prop :=
  ∀ s x, k.opened n s x → k.opened n' s x

/-- These sites can always be reached, and no call to one of them fails. -/
structure Transport.Serves {N : Type} (t : Transport N) (k : Contacts N) (sites : Set Site)
    (posting : Site → Posting) : Prop where
  connect {settings : Settings} (h : settings.site ∈ sites) (n : N) :
    ∃ s, (t.connect settings n).1 = .ok (some s) ∧
      k.opened (t.connect settings n).2 s settings.site
  bind {n : N} {s : SessionId} {x : Site} (h : k.opened n s x) (request : BindRequest) :
    Accepted (t.bind s request n).1
  search {n : N} {s : SessionId} {x : Site} (h : k.opened n s x) (request : SearchRequest) :
    ∃ c, (t.search s request n).1 = .ok c ∧
      k.reading (t.search s request n).2 c x (posting x).responses
  next {n : N} {c : CursorId} {x : Site} {r : Response} {l : List Response}
    (h : k.reading n c x (r :: l)) :
    (t.next c n).1 = .ok (some r) ∧ k.reading (t.next c n).2 c x l
  last {n : N} {c : CursorId} {x : Site} (h : k.reading n c x []) :
    (t.next c n).1 = .ok none ∧ k.read (t.next c n).2 c x
  finish {n : N} {c : CursorId} {x : Site} (h : k.read n c x) :
    (t.finish c n).1 = some (posting x).result
  keeps_connect (settings : Settings) (n : N) : k.Keeps n (t.connect settings n).2
  keeps_bind (s : SessionId) (request : BindRequest) (n : N) : k.Keeps n (t.bind s request n).2
  keeps_search (s : SessionId) (request : SearchRequest) (n : N) :
    k.Keeps n (t.search s request n).2
  keeps_next (c : CursorId) (n : N) : k.Keeps n (t.next c n).2
  keeps_finish (c : CursorId) (n : N) : k.Keeps n (t.finish c n).2
  keeps_abandon (c : CursorId) (n : N) : k.Keeps n (t.abandon c n).2
  keeps_cancel (c : CursorId) (n : N) : k.Keeps n (t.cancel c n)

section
variable {N : Type} {k : Contacts N}

theorem Contacts.Keeps.refl (n : N) : k.Keeps n n := fun _ _ h => h

theorem Contacts.Keeps.trans {n n' n'' : N} (h : k.Keeps n n') (h' : k.Keeps n' n'') :
    k.Keeps n n'' := fun s x hs => h' s x (h s x hs)

/-- The client does nothing but listen. -/
structure World.Idle (k : Contacts N) (w w' : World N) : Prop where
  registry : w'.registry = w.registry
  chance : w'.chance = w.chance
  drawn : w'.drawn = w.drawn
  keeps : k.Keeps w.net w'.net

theorem World.Idle.refl (w : World N) : w.Idle k w := ⟨rfl, rfl, rfl, .refl _⟩

theorem World.Idle.trans {w v w' : World N} (h : w.Idle k v) (h' : v.Idle k w') : w.Idle k w' where
  registry := h'.registry.trans h.registry
  chance := h'.chance.trans h.chance
  drawn := h'.drawn.trans h.drawn
  keeps := h.keeps.trans h'.keeps

theorem World.idle_record (e : Event) (w : World N) : w.Idle k (World.record e w).2 :=
  ⟨rfl, rfl, rfl, .refl _⟩

variable {sites : Set Site} {posting : Site → Posting} {m : Manager N} {w w' : World N}

namespace Manager

theorem Talk.idle (ht : m.transport.Serves k sites posting) (h : m.Talk w w') : w.Idle k w' := by
  cases h with
  | start s request => exact ⟨rfl, rfl, rfl, ht.keeps_search s request w.net⟩
  | advance c => exact ⟨rfl, rfl, rfl, ht.keeps_next c w.net⟩
  | terminal c => exact ⟨rfl, rfl, rfl, ht.keeps_finish c w.net⟩
  | giveUp c => exact ⟨rfl, rfl, rfl, ht.keeps_abandon c w.net⟩
  | cancelNow c => exact ⟨rfl, rfl, rfl, ht.keeps_cancel c w.net⟩
  | handed more => exact World.idle_record _ w

/-! ## Clients of a network -/

/-- Every server that is known is one of these, and every session that is stored is open there. -/
structure Among (k : Contacts N) (sites : Set Site) (w : World N) : Prop where
  sites : ∀ i < w.registry.size, (w.registry.server i).record.site ∈ sites
  sessions : ∀ i < w.registry.size, ∀ s, (w.registry.server i).session = some s →
    k.opened w.net s (w.registry.server i).record.site

theorem Among.idle (h : Among k sites w) (hw : w.Idle k w') : Among k sites w' where
  sites := by
    rw [hw.registry]
    exact h.sites
  sessions := by
    rw [hw.registry]
    exact fun i hi s hs => hw.keeps s _ (h.sessions i hi s hs)

/-- A session that was opened for a server is stored with it, or none is. -/
theorem Among.store (h : Among k sites w) {i : Nat} (hi : i < w.registry.size)
    {o : Option SessionId}
    (ho : ∀ s, o = some s → k.opened w.net s (w.registry.server i).record.site) :
    Among k sites (Manager.store i o w).2 := by
  have hsize : (Manager.store i o w).2.registry.size = w.registry.size :=
    w.registry.size_setSession i o
  have hrecord (j : Nat) : ((Manager.store i o w).2.registry.server j).record =
      (w.registry.server j).record := w.registry.record_setSession i j o
  constructor
  · intro j hj
    rw [hrecord]
    exact h.sites j (hsize ▸ hj)
  · intro j hj s hs
    rw [hrecord]
    rw [hsize] at hj
    by_cases hij : i = j
    · subst hij
      have hself : ((Manager.store i o w).2.registry.server i).session = o := by
        rw [Manager.store, Registry.server_setSession_self o hi]
      exact ho s (hself.symm.trans hs)
    · have hother : (Manager.store i o w).2.registry.server j = w.registry.server j :=
        Registry.server_setSession_of_ne o hj hij
      rw [hother] at hs
      exact h.sessions j hj s hs

/-- what a connection needs for another pass at a site -/
structure At (k : Contacts N) (sites : Set Site) (x : Site) (conn : Connection) (w : World N) :
    Prop where
  among : Among k sites w
  opened : k.opened w.net conn.session x
  mem : x ∈ sites

variable (ht : m.transport.Serves k sites posting)
include ht

/-- Nothing is lost while a session is opened and bound. -/
theorem idle_loggedIn (i : Nat) (s : SessionId) (w : World N) :
    (cleared i w).Idle k (m.loggedIn i s w) where
  registry := rfl
  chance := rfl
  drawn := rfl
  keeps := (ht.keeps_connect _ _).trans (ht.keeps_bind s _ _)

/-- A server that is known can be connected, and nothing is drawn for it. -/
theorem Among.connectServer (h : Among k sites w) {i : Nat} (hi : i < w.registry.size) :
    ∃ s w', m.connectServer i w = (.ok s, w') ∧
      At k sites (w.registry.server i).record.site ⟨i, s⟩ w' ∧
      w'.chance = w.chance ∧ w'.drawn = w.drawn := by
  have hsite : (m.settings (w.registry.server i).record).site ∈ sites := h.sites i hi
  obtain ⟨s', hdial, hopened⟩ := ht.connect hsite w.net
  have hanswer : m.dialAnswer i w = .ok (some s') := hdial
  have hspec := m.connectServer_spec i w
  rcases hx : m.connectServer i w with ⟨a, w'⟩
  rw [hx] at hspec
  cases hspec with
  | kept s hs hc => exact ⟨s, _, rfl, ⟨h, h.sessions i hi s hs, hsite⟩, rfl, rfl⟩
  | refused e hst hd => exact absurd hanswer (hd s')
  | unbound s e hst hd hb =>
    obtain rfl : s' = s := Option.some.inj (Except.ok.inj (hanswer.symm.trans hd))
    have haccepted : Accepted (m.bindAnswer i s' w) := ht.bind hopened _
    rw [bindError_eq_none_iff.mpr haccepted] at hb
    cases hb
  | bound s hst hd hb =>
    obtain rfl : s' = s := Option.some.inj (Except.ok.inj (hanswer.symm.trans hd))
    have hcleared : Among k sites (cleared i w) := h.store hi fun s hs => by cases hs
    have hlogged : Among k sites (m.loggedIn i s' w) := hcleared.idle (idle_loggedIn ht i s' w)
    have hsize : i < (m.loggedIn i s' w).registry.size :=
      lt_of_lt_of_eq hi (w.registry.size_setSession i none).symm
    have hopened' : k.opened (m.loggedIn i s' w).net s' (w.registry.server i).record.site :=
      ht.keeps_bind s' _ _ s' _ hopened
    have hrecord : ((m.loggedIn i s' w).registry.server i).record =
      (w.registry.server i).record := record_cleared i i w
    refine ⟨s', _, rfl, ⟨hlogged.store hsize ?_, hopened', hsite⟩, rfl, rfl⟩
    intro s hs
    obtain rfl := Option.some.inj hs
    rw [hrecord]
    exact hopened'

/-- A name leads to a session of the server that is drawn for it. -/
theorem Among.connection (h : Among k sites w) (d : Dn) : ∃ conn w',
    m.connection d w = (.ok conn, w') ∧
      At k sites (w.registry.server (w.registry.route d (w.chance w.drawn))).record.site conn w' ∧
      w'.chance = w.chance ∧ w'.drawn = w.drawn + 1 := by
  have hselected : Among k sites (select d w).2 := ⟨h.sites, h.sessions⟩
  obtain ⟨session, w', hconnect, hat, hchance, hdrawn⟩ :=
    hselected.connectServer ht (select_lt_size d w)
  refine ⟨_, w', ?_, hat, hchance, hdrawn⟩
  simp only [Manager.connection, connectTo, Act.bind_apply, hconnect]
  rfl

omit ht in
/-- The server of a URL is at the site of the URL, whether it was known before or not. -/
theorem site_selectForUrl (url : LdapUrl) (w : World N) :
    ((m.selectForUrl url w).2.registry.server (m.selectForUrl url w).1).record.site = url.site := by
  have hfound := Registry.find?_records (w.registry.find?_enrol m.schema url)
  obtain ⟨hcovers, -⟩ := List.find?_eq_some_iff_append.mp hfound
  exact site_of_covers hcovers

omit ht in
theorem Among.selectForUrl (h : Among k sites w) {url : LdapUrl} (hurl : url.site ∈ sites) :
    Among k sites (m.selectForUrl url w).2 := by
  have hregistry := m.registry_selectForUrl url w
  have hnet : (m.selectForUrl url w).2.net = w.net := rfl
  rcases w.registry.enrol_cases m.schema url with ⟨i, -, -, henrol⟩ | ⟨-, henrol⟩
  · rw [henrol] at hregistry
    exact h.idle ⟨hregistry, rfl, rfl, .refl _⟩
  · rw [henrol] at hregistry
    have hcases {j : Nat} (hj : j < (m.selectForUrl url w).2.registry.size) :
        j < w.registry.size ∧
            (m.selectForUrl url w).2.registry.server j = w.registry.server j ∨
          (m.selectForUrl url w).2.registry.server j =
            { record := .ofReferral m.schema w.registry.first.record url } := by
      rw [hregistry] at hj ⊢
      rw [Registry.size_push] at hj
      rcases Nat.lt_succ_iff_lt_or_eq.mp hj with hlt | rfl
      · exact .inl ⟨hlt, Registry.server_push_of_lt _ hlt⟩
      · exact .inr (Registry.server_push_size _ _)
    constructor
    · intro j hj
      rcases hcases hj with ⟨hlt, hserver⟩ | hserver
      · rw [hserver]
        exact h.sites j hlt
      · rw [hserver]
        exact hurl
    · intro j hj s hs
      rcases hcases hj with ⟨hlt, hserver⟩ | hserver
      · rw [hserver] at hs ⊢
        exact h.sessions j hlt s hs
      · rw [hserver] at hs
        cases hs

end Manager

/-! ## Referrals -/

/-- A referral that is answered at one site names a URL of the other one. -/
def Refers (posting : Site → Posting) (x y : Site) : Prop :=
  (posting x).result.code = ResultCode.referral ∧
    ∃ text ∈ (posting x).result.urls, ∃ url, LdapUrl.parse text = .ok url ∧ url.site = y

namespace Search

variable {O : Type} {s : Search N O} (ht : s.manager.transport.Serves k sites posting)
include ht

theorem connectReferral_of_select (h : Manager.Among k sites w) {r : Referral} {url : LdapUrl}
    (hselect : s.manager.selectForReferral r w =
      (.ok (some (s.manager.selectForUrl url (World.draw w).2).1),
        (s.manager.selectForUrl url (World.draw w).2).2))
    (hsite : url.site ∈ sites) : ∃ conn w', s.connectReferral r w = (.ok conn, w') ∧
      Manager.At k sites url.site conn w' ∧ w'.chance = w.chance ∧ w'.drawn = w.drawn + 1 := by
  have hdrawn : Manager.Among k sites (World.draw w).2 := ⟨h.sites, h.sessions⟩
  have hamong := hdrawn.selectForUrl (m := s.manager) hsite
  obtain ⟨session, w', hconnect, hat, hchance, hcount⟩ :=
    hamong.connectServer ht (s.manager.selectForUrl_lt_size url _)
  rw [Manager.site_selectForUrl] at hat
  refine ⟨_, w', ?_, hat, hchance, hcount⟩
  simp only [connectReferral, Manager.connectionForReferral, Manager.connectTo, Act.bind_apply,
    hselect, hconnect]
  rfl

/-- The URL that is drawn leads to a session at its site. -/
theorem connectReferral_of_drawn (h : Manager.Among k sites w) {r : Referral}
    (hr : r.isEmpty = false) {url : LdapUrl}
    (hurl : LdapUrl.parse ((r.urls[w.chance w.drawn % r.urls.length]?).getD "") = .ok url)
    (hsite : url.site ∈ sites) : ∃ conn w', s.connectReferral r w = (.ok conn, w') ∧
      Manager.At k sites url.site conn w' ∧ w'.chance = w.chance ∧ w'.drawn = w.drawn + 1 := by
  have hselect := s.manager.selectForReferral_of_nonempty hr w
  have hdraw : (World.draw w).1 = w.chance w.drawn := rfl
  rw [hdraw, hurl] at hselect
  exact connectReferral_of_select ht h hselect hsite

/-- A referral leads to the site of one of its URLs, or to an error. -/
theorem connectReferral_cases (h : Manager.Among k sites w) {x : Site}
    (hcode : (posting x).result.code = ResultCode.referral)
    (hurls : ∀ y, Refers posting x y → y ∈ sites) :
    (∃ err w', s.connectReferral ⟨(posting x).result.urls⟩ w = (.error err, w')) ∨
      ∃ y conn w', Refers posting x y ∧
        s.connectReferral ⟨(posting x).result.urls⟩ w = (.ok conn, w') ∧
        Manager.At k sites y conn w' := by
  rcases s.manager.selectForReferral_cases ⟨(posting x).result.urls⟩ w with
    ⟨-, hselect⟩ | ⟨e, hselect⟩ | ⟨text, htext, url, hparse, hselect⟩
  · left
    refine ⟨.referralUnavailable (Referral.text ⟨(posting x).result.urls⟩), w, ?_⟩
    simp only [connectReferral, Manager.connectionForReferral, Act.bind_apply, hselect]
    rfl
  · left
    refine ⟨.referralUnavailable e.message, (World.draw w).2, ?_⟩
    simp only [connectReferral, Manager.connectionForReferral, Act.bind_apply, hselect]
    rfl
  · right
    have hrefers : Refers posting x url.site := ⟨hcode, text, htext, url, hparse, rfl⟩
    obtain ⟨conn, w', hconn, hat, -⟩ :=
      connectReferral_of_select ht h hselect (hurls _ hrefers)
    exact ⟨url.site, conn, w', hrefers, hconn, hat⟩

end Search

end

end DirectoryClient
