/-
The invariant of the composed system. Every event leads to a later stage of it, and what a device shows goes up but
for the documents of the writes it was refused; so a listener of the device gets what it shows at one time after
another. What a screen has is what one of its listeners got last.
-/
import PetIT.Live.Ledger

namespace PetIT.Live

open Table (Coordinate)
open Job (CreatedBy IsBooked DocOK)

/-! ## Definitions -/

/-- Device `i` has sent the writes it waits for, and knows of what was sent, nothing of it ahead of the server. -/
structure Device.OK (resolve : String → Option String) (s : State) (i : Nat) (d : Device) : Prop where
  pending : ∀ w ∈ d.replica.pending, (i, w) ∈ s.sent
  known : Known s.job.core s.sent i d.replica.base
  behind : d.Behind s.history

/-- The device shows what it can have come to show. -/
structure Device.Ahead (d d' : Device) : Prop where
  refused : d.refused ⊆ d'.refused
  view : Up d'.refused d.view d'.view

/-- What was raised for a listener of device `i` was shown there, one after the other. -/
structure Listener.OK (s : State) (i : Nat) (d : Device) (l : Listener) : Prop where
  known : ∀ v ∈ l.feed.sent, Known s.job.core s.sent i v
  ordered : l.feed.Ordered (Up d.refused) d.view

/-- The listeners of the screen are there, and have got what they had got. -/
structure Screen.Extends (sc sc' : Screen) : Prop where
  device : sc'.device = sc.device
  listeners : ∀ (j : Nat) (l : Listener), sc.listeners[j]? = some l →
    ∃ l', sc'.listeners[j]? = some l' ∧ l'.ownerId = l.ownerId ∧ l.feed.seen <+: l'.feed.seen

/-- The one state is a later stage of the other. -/
structure Later (s s' : State) : Prop where
  core : s.job.core.Grows s'.job.core
  sent : s.sent ⊆ s'.sent
  delivered : s.job.delivered ⊆ s'.job.delivered
  devices : ∀ (i : Nat) (d : Device), s.devices[i]? = some d → ∃ d', s'.devices[i]? = some d' ∧ d.Ahead d'
  screens : ∀ (n : Nat) (sc : Screen), s.screens[n]? = some sc → ∃ sc', s'.screens[n]? = some sc' ∧ sc.Extends sc'

section

variable {D : Type} [LinearOrder D] (pf : Table.Platform) (distance : Coordinate → Coordinate → D)

/-- What a screen has of its listeners, whatever is raised for them. -/
structure Screen.Shows (sc : Screen) : Prop where
  asks : sc.content.asksAll = true → ∀ (j : Nat) (l : Listener), sc.listeners[j]? = some l → l.ownerId = none
  latest : Latest sc.listeners (sc.content.jobPosts = []) fun docs => sc.content.Sorted pf distance docs
  sound : sc.content.Sound (Emptied sc.listeners)

/-- A screen is that of a device, its listeners were raised what the device came to show, its posts have been delivered,
and it shows what its listeners have brought. -/
structure Screen.OK (s : State) (sc : Screen) : Prop where
  listeners : ∃ d, s.devices[sc.device]? = some d ∧
    ∀ (j : Nat) (l : Listener), sc.listeners[j]? = some l → l.OK s sc.device d
  delivered : ∀ p ∈ sc.content.jobPosts, p ∈ s.job.delivered
  shows : sc.Shows pf distance

/-- The server's history is one of the job system, each document is from a write that was sent, the devices know nothing
that is not so, and neither do the screens. -/
structure Inv (resolve : String → Option String) (s : State) : Prop where
  history : History resolve s.history s.job.core
  ledger : Ledger resolve s.job.core s.sent
  devices : ∀ (i : Nat) (d : Device), s.devices[i]? = some d → d.OK resolve s i
  screens : ∀ (n : Nat) (sc : Screen), s.screens[n]? = some sc → sc.OK pf distance s

end

variable {D : Type} [LinearOrder D] {resolve : String → Option String} {pf : Table.Platform}
  {distance : Coordinate → Coordinate → D} {s s' s'' : State} {sc sc' sc'' : Screen} {d d' d'' : Device} {i : Nat}
  {w : Write} {l l' : Listener}

theorem Inv.init : Inv pf distance resolve State.init := ⟨.init, .init, by simp [State.init], by simp [State.init]⟩

/-! ## Later stages -/

theorem Device.Ahead.refl (d : Device) : d.Ahead d := ⟨List.Subset.refl _, .refl _ _⟩

theorem Device.Ahead.trans (h : d.Ahead d') (h' : d'.Ahead d'') : d.Ahead d'' :=
  ⟨List.Subset.trans h.refused h'.refused, (h.view.mono h'.refused).trans h'.view⟩

theorem Screen.Extends.refl (sc : Screen) : sc.Extends sc := ⟨rfl, fun _ l h => ⟨l, h, rfl, List.prefix_refl _⟩⟩

theorem Screen.Extends.trans (h : sc.Extends sc') (h' : sc'.Extends sc'') : sc.Extends sc'' := by
  refine ⟨h'.device.trans h.device, fun j l hl => ?_⟩
  obtain ⟨l', hl', ho, hseen⟩ := h.listeners j l hl
  obtain ⟨l'', hl'', ho', hseen'⟩ := h'.listeners j l' hl'
  exact ⟨l'', hl'', ho'.trans ho, hseen.trans hseen'⟩

/-- A listener gets more, or is raised more. -/
theorem Screen.Extends.set {j : Nat} {content : Content} (hj : sc.listeners[j]? = some l)
    (ho : l'.ownerId = l.ownerId) (hseen : l.feed.seen <+: l'.feed.seen) :
    sc.Extends { sc with content := content, listeners := sc.listeners.set j l' } := by
  refine ⟨rfl, fun k m hm => ?_⟩
  by_cases hjk : j = k
  · subst hjk
    rw [hj] at hm; cases hm
    exact ⟨l', Slots.getElem?_set_self hj, ho, hseen⟩
  · exact ⟨m, by rw [List.getElem?_set_ne hjk, hm], rfl, List.prefix_refl _⟩

theorem ScreenChange.extends (h : ScreenChange pf distance sc sc') : sc.Extends sc' := by
  cases h with
  | added => exact ⟨rfl, fun j l hl => ⟨l, Slots.getElem?_concat_of_some hl, rfl, List.prefix_refl _⟩⟩
  | content => exact ⟨rfl, fun j l hl => ⟨l, hl, rfl, List.prefix_refl _⟩⟩

theorem Later.refl (s : State) : Later s s :=
  ⟨.refl _, List.Subset.refl _, List.Subset.refl _, fun _ d h => ⟨d, h, .refl d⟩, fun _ sc h => ⟨sc, h, .refl sc⟩⟩

theorem Later.trans (h : Later s s') (h' : Later s' s'') : Later s s'' := by
  refine ⟨h.core.trans h'.core, List.Subset.trans h.sent h'.sent, List.Subset.trans h.delivered h'.delivered,
    fun i d hd => ?_, fun n sc hn => ?_⟩
  · obtain ⟨d', hd', ha⟩ := h.devices i d hd
    obtain ⟨d'', hd'', ha'⟩ := h'.devices i d' hd'
    exact ⟨d'', hd'', ha.trans ha'⟩
  · obtain ⟨sc', hn', he⟩ := h.screens n sc hn
    obtain ⟨sc'', hn'', he'⟩ := h'.screens n sc' hn'
    exact ⟨sc'', hn'', he.trans he'⟩

/-- One device or one screen comes to show more. -/
theorem Later.set {α : Type} {R : α → α → Prop} {xs : List α} {k : Nat} {x y : α} (hrefl : ∀ x, R x x)
    (hk : xs[k]? = some x) (hr : R x y) (n : Nat) (z : α) (hn : xs[n]? = some z) :
    ∃ z', (xs.set k y)[n]? = some z' ∧ R z z' := by
  by_cases hkn : k = n
  · subst hkn
    rw [hk] at hn; cases hn
    exact ⟨y, Slots.getElem?_set_self hk, hr⟩
  · exact ⟨z, by rw [List.getElem?_set_ne hkn, hn], hrefl z⟩

/-! ## Devices -/

/-- What a device shows is of what was sent. -/
theorem Device.OK.view (h : d.OK resolve s i) (hl : Ledger resolve s.job.core s.sent) :
    Known s.job.core s.sent i d.view :=
  Store.Replica.view_inv (fun w hw _ hv => Known.act hv hl (h.pending w hw)) h.known

/-- The device is no more than the present state of the server. -/
theorem Device.OK.le_present (h : d.OK resolve s i) (hh : History resolve s.history s.job.core) (id : String) :
    stage d.replica.base id ≤ s.job.core.entry id := by
  obtain ⟨c, hc, hle⟩ := h.behind id
  exact hle.trans ((hh.grows_present (List.mem_of_getElem? hc)).entry id)

/-- Nothing is shown of a post before it is sent. -/
theorem Device.OK.absent (h : d.OK resolve s i) (hi : Inv pf distance resolve s) {k : Nat} {j : JobPost}
    {p : Job.Post} (hk : s.job.posts[k]? = some p) (hph : p.phase = .fetchingURL) (hid : p.docId = j.postId) :
    stage d.view j.postId = .absent := by
  refine Store.Replica.view_inv (P := fun v => stage v j.postId = .absent) (fun w hw v hv => ?_) ?_
  · refine stage_act_absent hv fun k' j' he => ?_
    subst he
    -- the press behind another write of the post would be this one, which has sent none
    obtain ⟨p', hk', hb', hs'⟩ := hi.ledger.write i _ (h.pending _ hw)
    rintro hid'
    have hkk : k' = k := Slots.index_eq hi.history.present.docIds hk' hk
      (hb'.postId.symm.trans (hid'.trans hid.symm))
    subst hkk
    have hp : some p' = some p := hk'.symm.trans hk
    cases hp
    rcases hs' with hs' | hs' | hs' <;> rw [hph] at hs' <;> cases hs'
  · have hle := h.le_present hi.history j.postId
    rw [← hid] at hle ⊢
    rw [hi.history.present.entry_absent hk fun j hj => by rw [hph] at hj; cases hj] at hle
    exact Store.Entry.le_absent.1 hle

theorem Device.Ahead.send (hw : ∀ k j, w = .post k j → stage d.view j.postId = .absent) : d.Ahead (d.send w) :=
  ⟨List.Subset.refl _, Device.view_le_send hw⟩

theorem Device.Ahead.answer {applied : Bool} {version : Nat} (h : d.answer applied version = some (w, d')) :
    d.Ahead d' := ⟨Device.refused_subset h, Device.view_le_answer h⟩

/-! ## Every event leads to a later stage -/

theorem Sends.ok {e : Event} {job : Job.State} (h : Sends resolve s job e w) : w.OK resolve job.core := by
  cases w with
  | post => exact h.2.2
  | book => exact h
  | delete => trivial

/-- A device sends a post when its press has just built it, so it has not heard of it. -/
theorem Sends.absent {e : Event} {job : Job.State} (h : Sends resolve s job e w) (hi : Inv pf distance resolve s)
    (hd : s.devices[i]? = some d) (k : Nat) (j : JobPost) (hw : w = .post k j) : stage d.view j.postId = .absent := by
  subst hw
  obtain ⟨-, ⟨p, hk, hph, hid⟩, -⟩ := h
  exact (hi.devices i d hd).absent hi hk hph hid

theorem Change.later {e : Event} (h : Change resolve pf distance s e s') (hi : Inv pf distance resolve s) :
    Later s s' := by
  have hcore : ∀ {f : Job.Event} {job : Job.State}, Job.step resolve s.job f = some job →
      s.job.core.Grows job.core := fun h => (Job.step_core h).grows hi.history.present
  have hdevices : ∀ (i : Nat) (d : Device), s.devices[i]? = some d → ∃ d', s.devices[i]? = some d' ∧ d.Ahead d' :=
    fun _ d hd => ⟨d, hd, .refl d⟩
  have hscreens : ∀ (n : Nat) (sc : Screen), s.screens[n]? = some sc →
      ∃ sc', s.screens[n]? = some sc' ∧ sc.Extends sc' := fun _ sc hn => ⟨sc, hn, .refl sc⟩
  cases h with
  | device user =>
    exact ⟨.refl _, List.Subset.refl _, List.Subset.refl _,
      fun i d hd => ⟨d, Slots.getElem?_concat_of_some hd, .refl d⟩, hscreens⟩
  | worked forms h => exact ⟨hcore h, List.Subset.refl _, Job.delivered_subset h, hdevices, hscreens⟩
  | sent h hb hd hw =>
    exact ⟨hcore h, List.subset_append_left _ _, Job.delivered_subset h,
      Later.set Device.Ahead.refl hd (.send (hw.absent hi hd)), hscreens⟩
  | answered hd hans h =>
    exact ⟨hcore h, List.Subset.refl _, Job.delivered_subset h, Later.set Device.Ahead.refl hd (.answer hans),
      hscreens⟩
  | @synced i version id d core hd hc hv hk =>
    have hle : ∀ c, s.history[d.versions id]? = some c → c.Grows core := fun c hc' =>
      hi.history.grows_of_le hv hc' hc
    exact ⟨.refl _, List.Subset.refl _, List.Subset.refl _, Later.set Device.Ahead.refl hd
      ⟨List.Subset.refl _, Device.view_le_learn ((hi.devices i d hd).behind.learn hc hle hk).1⟩, hscreens⟩
  | opened =>
    exact ⟨.refl _, List.Subset.refl _, List.Subset.refl _, hdevices,
      fun n sc hn => ⟨sc, Slots.getElem?_concat_of_some hn, .refl sc⟩⟩
  | screen hn hc =>
    exact ⟨.refl _, List.Subset.refl _, List.Subset.refl _, hdevices, Later.set Screen.Extends.refl hn hc.extends⟩
  | raised hn hj =>
    exact ⟨.refl _, List.Subset.refl _, List.Subset.refl _, hdevices,
      Later.set Screen.Extends.refl hn (.set hj rfl (List.prefix_refl _))⟩
  | received hn hj hf =>
    exact ⟨.refl _, List.Subset.refl _, List.subset_append_left _ _, hdevices,
      Later.set Screen.Extends.refl hn (.set hj rfl (Store.Feed.seen_receive hf))⟩
  | tapped details hn he hc h =>
    exact ⟨hcore h, List.Subset.refl _, Job.delivered_subset h, hdevices,
      Later.set Screen.Extends.refl hn (ScreenChange.content he hc).extends⟩

/-! ## What a later stage keeps -/

theorem Device.OK.later (h : d.OK resolve s i) (hl : Later s s') (hp : s.history <+: s'.history) :
    d.OK resolve s' i :=
  ⟨fun w hw => hl.sent (h.pending w hw), h.known.mono hl.core hl.sent, h.behind.mono hp⟩

theorem Listener.OK.later (h : l.OK s i d) (hl : Later s s') (ha : d.Ahead d') : l.OK s' i d' := by
  refine ⟨fun v hv => (h.known v hv).mono hl.core hl.sent, ?_⟩
  exact (h.ordered.imp fun a b hab => hab.mono ha.refused).source (fun _ _ _ => Up.trans) ha.view

theorem Screen.OK.later (h : sc.OK pf distance s) (hl : Later s s') : sc.OK pf distance s' := by
  obtain ⟨d, hd, hls⟩ := h.listeners
  obtain ⟨d', hd', ha⟩ := hl.devices _ d hd
  exact ⟨⟨d', hd', fun j l hj => (hls j l hj).later hl ha⟩, fun p hp => hl.delivered (h.delivered p hp), h.shows⟩

/-! ## Screens -/

theorem Listener.OK.new (ownerId : Option String) : Listener.OK s i d { ownerId := ownerId } := ⟨nofun, .empty⟩

theorem Screen.Shows.opened {content : Content} (hc : content = .map .init ∨ ∃ screen, content = .list screen .init) :
    Screen.Shows pf distance { device := i, content := content } := by
  refine ⟨fun _ => by simp, Or.inl ⟨?_, by simp⟩, ?_⟩ <;> rcases hc with rfl | ⟨screen, rfl⟩
  · rfl
  · rfl
  · exact ⟨fun _ => Map.Inv.init, fun ⟨j, l, hj, _⟩ => by simp at hj⟩
  · exact Table.Synced.init

theorem Screen.Shows.content {e : Content.Event} {content : Content} (h : sc.Shows pf distance) (he : e.Plain)
    (hc : sc.content.step pf distance e = some content) : Screen.Shows pf distance { sc with content := content } := by
  refine ⟨fun hall => h.asks (Content.asksAll_step hc ▸ hall), h.latest.imp (fun hblank => ?_) fun docs hs => ?_,
    h.sound.plain he hc⟩
  · exact (Content.jobPosts_frame he hc).trans hblank
  · exact hs.plain he hc

theorem Screen.Shows.addSnapshotListener {ownerId : Option String} (h : sc.Shows pf distance)
    (hall : sc.content.asksAll = true → ownerId = none) : (sc.addSnapshotListener ownerId).Shows pf distance :=
  ⟨fun ha => Slots.forall_concat (h.asks ha) (hall ha), h.latest.new ownerId, h.sound.congr emptied_new⟩

theorem Screen.Shows.change (h : sc.Shows pf distance) (hc : ScreenChange pf distance sc sc') :
    sc'.Shows pf distance := by
  cases hc with
  | content he hc => exact h.content he hc
  | added he hall hc =>
    rcases hc with rfl | hc
    · exact h.addSnapshotListener hall
    · exact (h.content he hc).addSnapshotListener fun ha => hall (Content.asksAll_step hc ▸ ha)

theorem Screen.Shows.raised {j : Nat} (h : sc.Shows pf distance) (hj : sc.listeners[j]? = some l) (v : Cache) :
    Screen.Shows pf distance { sc with listeners := sc.listeners.set j { l with feed := l.feed.send v } } :=
  ⟨fun ha => Slots.forall_set (h.asks ha) (h.asks ha j l hj), h.latest.send hj v, h.sound.congr (emptied_send hj v)⟩

theorem Screen.Shows.received {j : Nat} {v : Cache} {feed : Store.Feed Cache} {now : Int} {content : Content}
    (h : sc.Shows pf distance) (hj : sc.listeners[j]? = some l) (hf : l.feed.receive = some (v, feed))
    (hc : sc.content.step pf distance (sc.content.snapshot now (.ok (query l.ownerId v))) = some content) :
    Screen.Shows pf distance
      { sc with content := content, listeners := sc.listeners.set j { l with feed := feed } } := by
  obtain ⟨hsorted, hsound⟩ := Content.step_snapshot hc h.sound
  refine ⟨fun ha => ?_, .receive _ hj hf hsorted, hsound.congr (emptied_receive hj hf)⟩
  have hall := h.asks (Content.asksAll_step hc ▸ ha)
  exact Slots.forall_set hall (hall j l hj)

theorem ScreenChange.jobPosts (h : ScreenChange pf distance sc sc') : sc'.content.jobPosts = sc.content.jobPosts := by
  cases h with
  | content he hc => exact Content.jobPosts_frame he hc
  | added he hall hc =>
    rcases hc with rfl | hc
    · rfl
    · exact Content.jobPosts_frame he hc

theorem Screen.OK.change (h : sc.OK pf distance s) (hc : ScreenChange pf distance sc sc') : sc'.OK pf distance s := by
  obtain ⟨d, hd, hls⟩ := h.listeners
  refine ⟨?_, fun p hp => h.delivered p (hc.jobPosts ▸ hp), h.shows.change hc⟩
  cases hc with
  | content => exact ⟨d, hd, hls⟩
  | added => exact ⟨d, hd, Slots.forall_concat hls (.new _)⟩

theorem Screen.OK.raised {j : Nat} (h : sc.OK pf distance s) (hi : Inv pf distance resolve s)
    (hj : sc.listeners[j]? = some l) (hd : s.devices[sc.device]? = some d) :
    Screen.OK pf distance s { sc with listeners := sc.listeners.set j { l with feed := l.feed.send d.view } } := by
  obtain ⟨d', hd', hls⟩ := h.listeners
  rw [hd, Option.some.injEq] at hd'
  subst hd'
  refine ⟨⟨d, hd, Slots.forall_set hls ⟨fun v hv => ?_, (hls j l hj).ordered.send (.refl _ _)⟩⟩, h.delivered,
    h.shows.raised hj d.view⟩
  rcases List.mem_append.1 (Store.Feed.sent_send _ _ ▸ hv) with hv | hv
  · exact (hls j l hj).known v hv
  · rw [List.mem_singleton] at hv
    subst hv
    exact (hi.devices _ d hd).view hi.ledger

theorem Screen.OK.received {j : Nat} {v : Cache} {feed : Store.Feed Cache} {now : Int} {content : Content}
    (h : sc.OK pf distance s) (hj : sc.listeners[j]? = some l) (hf : l.feed.receive = some (v, feed))
    (hc : sc.content.step pf distance (sc.content.snapshot now (.ok (query l.ownerId v))) = some content)
    (hdel : ∀ p ∈ (query l.ownerId v).map JobPost.ofDict, p ∈ s.job.delivered) : Screen.OK pf distance s
      { sc with content := content, listeners := sc.listeners.set j { l with feed := feed } } := by
  obtain ⟨d, hd, hls⟩ := h.listeners
  have hl := hls j l hj
  refine ⟨⟨d, hd, Slots.forall_set hls ⟨fun v' hv => ?_, hl.ordered.receive hf⟩⟩, fun p hp => ?_,
    h.shows.received hj hf hc⟩
  · exact hl.known v' ((Store.Feed.receive_some hf).2 ▸ hv)
  · exact hdel p ((Content.step_snapshot hc h.shows.sound).1.perm.mem_iff.1 hp)

/-! ## Every event keeps the invariant -/

theorem Inv.advance {f : Job.Event} {job : Job.State} {sent : List (Nat × Write)} (hi : Inv pf distance resolve s)
    (h : Job.step resolve s.job f = some job) (hsub : s.sent ⊆ sent)
    (hnew : ∀ i w, (i, w) ∈ sent → (i, w) ∈ s.sent ∨ w.OK resolve job.core)
    (hb : Builds s job fun k j => ∃ i, (i, Write.post k j) ∈ sent) :
    History resolve (s.history ++ [job.core]) job.core ∧ Ledger resolve job.core sent :=
  ⟨hi.history.advance (Job.step_core h), hi.ledger.advance (Job.step_core h) hsub hnew hb⟩

theorem Device.OK.answer {error : Option String} {job : Job.State} (hi : Inv pf distance resolve s)
    (h : d.OK resolve s i) (hans : d.answer error.isNone s.history.length = some (w, d'))
    (hjob : Job.step resolve s.job (w.reply s.job error) = some job) (hl : Later s s')
    (hs' : s'.history = s.history ++ [job.core]) (hledger : Ledger resolve s'.job.core s'.sent) :
    d'.OK resolve s' i := by
  obtain ⟨hp, hb, -, -⟩ := Device.answer_some hans
  have hw : (i, w) ∈ s.sent := h.pending w (hp ▸ List.mem_cons_self ..)
  refine ⟨fun v hv => hl.sent (h.pending v (hp ▸ List.mem_cons_of_mem w hv)), ?_, ?_⟩
  · rw [hb]
    split
    · exact Known.act (h.known.mono hl.core hl.sent) hledger (hl.sent hw)
    · exact h.known.mono hl.core hl.sent
  · rw [hs']
    refine h.behind.answer hans fun happlied => ?_
    cases error with
    | none =>
      exact (hi.ledger.write i w hw).applied hi.history.present (h.le_present hi.history w.id) hjob
    | some message => cases happlied

theorem Inv.change {e : Event} (hi : Inv pf distance resolve s) (hc : Change resolve pf distance s e s') :
    Inv pf distance resolve s' := by
  have hl := hc.later hi
  have hscreens : ∀ (n : Nat) (sc : Screen), s.screens[n]? = some sc → sc.OK pf distance s' :=
    fun n sc hn => (hi.screens n sc hn).later hl
  cases hc with
  | device user =>
    refine ⟨hi.history, hi.ledger, Slots.forall_concat (fun i d hd => (hi.devices i d hd).later hl ?_) ?_, hscreens⟩
    · exact List.prefix_refl _
    · exact ⟨nofun, .empty, .new user hi.history.ne_nil⟩
  | worked forms h hb =>
    obtain ⟨hh, hledger⟩ := hi.advance h (List.Subset.refl _) (fun _ _ => Or.inl) fun k p j hk hj =>
      (hb k p j hk hj).imp_right False.elim
    exact ⟨hh, hledger, fun i d hd => (hi.devices i d hd).later hl (List.prefix_append _ _), hscreens⟩
  | @sent f job i d w h hb hd hw =>
    have hmem : ∀ i' w', (i', w') ∈ s.sent ++ [(i, w)] ↔ (i', w') ∈ s.sent ∨ i' = i ∧ w' = w := by simp
    have hbuilds : Builds s job fun k j => ∃ i', (i', Write.post k j) ∈ s.sent ++ [(i, w)] := fun k p j hk hj =>
      (hb k p j hk hj).imp_right fun he => ⟨i, (hmem _ _).2 (Or.inr ⟨rfl, he.symm⟩)⟩
    have hnew : ∀ i' w', (i', w') ∈ s.sent ++ [(i, w)] → (i', w') ∈ s.sent ∨ w'.OK resolve job.core := by
      intro i' w' hw'
      rcases (hmem _ _).1 hw' with hw' | ⟨-, rfl⟩
      · exact Or.inl hw'
      · exact Or.inr hw.ok
    obtain ⟨hh, hledger⟩ := hi.advance h (List.subset_append_left _ _) hnew hbuilds
    have hold : ∀ (k : Nat) (d : Device), s.devices[k]? = some d → d.OK resolve _ k := fun k d hk =>
      (hi.devices k d hk).later hl (List.prefix_append _ _)
    refine ⟨hh, hledger, Slots.forall_set hold ⟨fun w' hw' => ?_, (hold i d hd).known, (hold i d hd).behind⟩, hscreens⟩
    rcases List.mem_append.1 hw' with hw' | hw'
    · exact (hold i d hd).pending w' hw'
    · exact (hmem _ _).2 (Or.inr ⟨rfl, List.mem_singleton.1 hw'⟩)
  | @answered error job i d d' w hd hans h hb =>
    obtain ⟨hh, hledger⟩ := hi.advance h (List.Subset.refl _) (fun _ _ => Or.inl) fun k p j hk hj =>
      (hb k p j hk hj).imp_right False.elim
    have hold : ∀ (k : Nat) (d : Device), s.devices[k]? = some d → d.OK resolve _ k := fun k d hk =>
      (hi.devices k d hk).later hl (List.prefix_append _ _)
    exact ⟨hh, hledger, Slots.forall_set hold ((hi.devices i d hd).answer hi hans h hl rfl hledger), hscreens⟩
  | @synced i version id d core hd hc hv hk =>
    have hold : ∀ (k : Nat) (d : Device), s.devices[k]? = some d → d.OK resolve _ k := fun k d hk =>
      (hi.devices k d hk).later hl (List.prefix_refl _)
    have hcore : core ∈ s.history := List.mem_of_getElem? hc
    refine ⟨hi.history, hi.ledger, Slots.forall_set hold ⟨(hold i d hd).pending, ?_, ?_⟩, hscreens⟩
    · exact (hi.devices i d hd).known.learn hi.ledger (hi.history.inv core hcore) (hi.history.grows_present hcore) id
    · exact ((hi.devices i d hd).behind.learn hc (fun c hc' => hi.history.grows_of_le hv hc' hc) hk).2
  | @opened i d content hd hc =>
    have hposts : content.jobPosts = [] := by rcases hc with rfl | ⟨screen, rfl⟩ <;> rfl
    exact ⟨hi.history, hi.ledger, fun i d hd => (hi.devices i d hd).later hl (List.prefix_refl _),
      Slots.forall_concat hscreens ⟨⟨d, hd, by simp⟩, by simp [hposts], .opened hc⟩⟩
  | screen hn hc =>
    exact ⟨hi.history, hi.ledger, fun i d hd => (hi.devices i d hd).later hl (List.prefix_refl _),
      Slots.forall_set hscreens ((hscreens _ _ hn).change hc)⟩
  | @raised n j sc l d hn hj hd =>
    exact ⟨hi.history, hi.ledger, fun i d hd => (hi.devices i d hd).later hl (List.prefix_refl _),
      Slots.forall_set hscreens (((hi.screens n sc hn).raised hi hj hd).later hl)⟩
  | received hn hj hf hc =>
    exact ⟨hi.history, hi.ledger, fun i d hd => (hi.devices i d hd).later hl (List.prefix_refl _),
      Slots.forall_set hscreens ((hscreens _ _ hn).received hj hf hc fun p hp => List.mem_append_right _ hp)⟩
  | tapped details hn he hc h =>
    -- the detail screen is none of the core
    obtain ⟨-, rfl⟩ := Job.openDetail_eq_some.1 h
    exact ⟨hi.history, hi.ledger, fun i d hd => (hi.devices i d hd).later hl (List.prefix_refl _),
      Slots.forall_set hscreens ((hscreens _ _ hn).change (.content he hc))⟩

theorem Inv.exec_from {es : List Event} (hi : Inv pf distance resolve s)
    (h : Run.exec (step resolve pf distance) s es = some s') : Inv pf distance resolve s' :=
  Run.exec_inv (fun _ _ _ hi hs => hi.change (step_change hs)) hi h

theorem Inv.exec {es : List Event} (h : Run.exec (step resolve pf distance) State.init es = some s) :
    Inv pf distance resolve s := Inv.init.exec_from h

/-- A run leads to a later stage. -/
theorem Inv.later {es : List Event} (hi : Inv pf distance resolve s)
    (h : Run.exec (step resolve pf distance) s es = some s') : Later s s' :=
  Run.exec_rel Later.refl (fun _ _ _ => Later.trans) (fun _ _ _ hi hs => hi.change (step_change hs))
    (fun _ _ _ hi hs => (step_change hs).later hi) hi h

end PetIT.Live
