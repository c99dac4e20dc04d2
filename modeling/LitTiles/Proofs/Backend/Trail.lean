import LitTiles.Proofs.Backend.Ledger

/-!
# Trails

A trail relates a state, the entries of what was called, an answer and another state. It is what an
action is to histories, with one thing added: for each call it is known for which layer of a scene
it was made. The trails of the renderer are built like its actions, out of sequences, loops and
actions on a part of a state, and `Trail.Erases` says that such a trail is an action once the layers
are left out.

Two kinds of statements about trails are closed under these constructs.

* `Trail.Keeps`: a law that ties a state to all that was called before it lives on.
* `Action.Spares`: a part of the state is left alone, and all calls are of a kind.
-/

namespace LitTiles

/-- What is called from a state, and where it leads. -/
abbrev Trail (σ α : Type) := σ → List Entry → Except RenderError α → σ → Prop

variable {σ τ α β : Type}

/-- Actions one after the other, each of them from where the one before it stopped, with an error or
without. -/
def Action.Attempts : List (Action σ Unit) → σ → List Exchange → σ → Prop
  | [], s, h, t => h = [] ∧ t = s
  | a :: as, s, h, t =>
    ∃ h₁ h₂ x r, h = h₁ ++ h₂ ∧ a.Leads s h₁ x r ∧ Action.Attempts as r h₂ t

/-- Actions one after the other on a backend: their history, and the states in the end. -/
def Action.playAll {ρ : Type} (b : Backend ρ) :
    List (Action σ Unit) → σ → ρ → List Exchange × σ × ρ
  | [], s, r => ([], s, r)
  | a :: as, s, r =>
    let (_, s', r') := a.play b s r
    let (h, t) := Action.playAll b as s' r'
    (a.heard b s r ++ h, t)

/-- Playing some actions against a backend is one of the ways to attempt them. -/
theorem Action.attempts_playAll {ρ : Type} (b : Backend ρ) (as : List (Action σ Unit)) (s : σ)
    (r : ρ) :
    Action.Attempts as s (Action.playAll b as s r).1 (Action.playAll b as s r).2.1 := by
  induction as generalizing s r with
  | nil => exact ⟨rfl, rfl⟩
  | cons a as ih => exact ⟨_, _, _, _, rfl, Action.leads_heard b a s r, ih _ _⟩

namespace Trail

/-- An action all of whose calls are made for one layer, or for none. -/
def of (source : Option Layer) (a : Action σ α) : Trail σ α :=
  fun s es x t => ∃ h, es = entries source h ∧ a.Leads s h x t

/-- A trail without calls. -/
def stay : Trail σ Unit := fun s es x t => es = [] ∧ x = .ok () ∧ t = s

/-- A sequence of two trails. -/
def bind (m : Trail σ α) (f : α → Trail σ β) : Trail σ β :=
  fun s es x t =>
    (∃ e, x = .error e ∧ m s es (.error e) t) ∨
    ∃ v es₁ es₂ r, es = es₁ ++ es₂ ∧ m s es₁ (.ok v) r ∧ f v r es₂ x t

/-- One trail for each member of a list; the first error ends the loop. -/
def forEach (f : β → Trail σ Unit) : List β → Trail σ Unit
  | [] => stay
  | b :: bs => (f b).bind fun _ => forEach f bs

/-- A trail on a part of a state. -/
def within (part : σ → τ) (replace : τ → σ → σ) (m : Trail τ α) : Trail σ α :=
  fun s es x t => ∃ p, m (part s) es x p ∧ t = replace p s

/-- Trails one after the other, each of them from where the one before it stopped, with an error or
without. -/
def Attempts : List (Trail σ Unit) → σ → List Entry → σ → Prop
  | [], s, es, t => es = [] ∧ t = s
  | m :: ms, s, es, t =>
    ∃ es₁ es₂ x r, es = es₁ ++ es₂ ∧ m s es₁ x r ∧ Attempts ms r es₂ t

/-! ## Leaving the layers out -/

/-- A trail is an action, but for the layers. -/
def Erases (m : Trail σ α) (a : Action σ α) : Prop :=
  ∀ s h x t, a.Leads s h x t ↔ ∃ es, exchanges es = h ∧ m s es x t

/-- An action whose calls are all made for one source is itself when the source is left out. -/
theorem erases_of (source : Option Layer) (a : Action σ α) : (of source a).Erases a := by
  intro s h x t
  constructor
  · intro ha
    exact ⟨entries source h, exchanges_entries source h, h, rfl, ha⟩
  · rintro ⟨es, rfl, h, rfl, ha⟩
    rw [exchanges_entries]
    exact ha

/-- A sequence of trails is a sequence of the actions. -/
theorem Erases.bind {m : Trail σ α} {a : Action σ α} {f : α → Trail σ β} {g : α → Action σ β}
    (hm : m.Erases a) (hf : ∀ v, (f v).Erases (g v)) : (m.bind f).Erases (a >>= g) := by
  intro s h x t
  rw [Action.leads_bind]
  constructor
  · rintro (⟨e, rfl, ha⟩ | ⟨v, h₁, h₂, r, rfl, ha, hg⟩)
    · obtain ⟨es, he, hes⟩ := (hm _ _ _ _).mp ha
      exact ⟨es, he, .inl ⟨e, rfl, hes⟩⟩
    · obtain ⟨es₁, rfl, h₁⟩ := (hm _ _ _ _).mp ha
      obtain ⟨es₂, rfl, h₂⟩ := (hf _ _ _ _ _).mp hg
      exact ⟨es₁ ++ es₂, exchanges_append es₁ es₂, .inr ⟨v, es₁, es₂, r, rfl, h₁, h₂⟩⟩
  · rintro ⟨es, rfl, ⟨e, rfl, hes⟩ | ⟨v, es₁, es₂, r, rfl, h₁, h₂⟩⟩
    · exact .inl ⟨e, rfl, (hm _ _ _ _).mpr ⟨es, rfl, hes⟩⟩
    · refine .inr ⟨v, _, _, r, exchanges_append es₁ es₂, ?_, ?_⟩
      · exact (hm _ _ _ _).mpr ⟨es₁, rfl, h₁⟩
      · exact (hf _ _ _ _ _).mpr ⟨es₂, rfl, h₂⟩

/-- A loop of trails is a loop of the actions. By induction on what is looped over. -/
theorem Erases.forEach {f : β → Trail σ Unit} {g : β → Action σ Unit}
    (hf : ∀ b, (f b).Erases (g b)) (bs : List β) :
    (Trail.forEach f bs).Erases (bs.forM g) := by
  induction bs with
  | nil =>
    intro s h x t
    rw [Action.leads_forM_nil]
    constructor
    · rintro ⟨rfl, hx⟩
      exact ⟨[], rfl, rfl, hx⟩
    · rintro ⟨es, rfl, rfl, hx⟩
      exact ⟨rfl, hx⟩
  | cons b bs ih => exact (hf b).bind fun _ => ih

/-- A trail on a part of a state is the action on this part. -/
theorem Erases.within {part : σ → τ} {replace : τ → σ → σ} {m : Trail τ α} {a : Action τ α}
    (hm : m.Erases a) : (m.within part replace).Erases (Action.within part replace a) := by
  intro s h x t
  rw [Action.leads_within]
  constructor
  · rintro ⟨p, ha, ht⟩
    obtain ⟨es, he, hes⟩ := (hm _ _ _ _).mp ha
    exact ⟨es, he, p, hes, ht⟩
  · rintro ⟨es, he, p, hes, ht⟩
    exact ⟨p, (hm _ _ _ _).mpr ⟨es, he, hes⟩, ht⟩

/-- Attempts at trails are attempts at actions, but for the layers. -/
theorem attempts_erases {f : β → Trail σ Unit} {g : β → Action σ Unit}
    (hf : ∀ b, (f b).Erases (g b)) {bs : List β} {s t : σ} {h : List Exchange} :
    Action.Attempts (bs.map g) s h t ↔ ∃ es, exchanges es = h ∧ Attempts (bs.map f) s es t := by
  induction bs generalizing s h with
  | nil =>
    constructor
    · rintro ⟨rfl, rfl⟩
      exact ⟨[], rfl, rfl, rfl⟩
    · rintro ⟨es, rfl, rfl, rfl⟩
      exact ⟨rfl, rfl⟩
  | cons b bs ih =>
    constructor
    · rintro ⟨h₁, h₂, x, r, rfl, hg, hrest⟩
      obtain ⟨es₁, rfl, h₁⟩ := (hf b _ _ _ _).mp hg
      obtain ⟨es₂, rfl, h₂⟩ := ih.mp hrest
      exact ⟨es₁ ++ es₂, exchanges_append es₁ es₂, es₁, es₂, x, r, rfl, h₁, h₂⟩
    · rintro ⟨_, rfl, es₁, es₂, x, r, rfl, h₁, h₂⟩
      refine ⟨_, _, x, r, exchanges_append es₁ es₂, ?_, ?_⟩
      · exact (hf b _ _ _ _).mpr ⟨es₁, rfl, h₁⟩
      · exact ih.mpr ⟨es₂, rfl, h₂⟩

/-- More attempts may follow. -/
theorem Attempts.append {ms ms' : List (Trail σ Unit)} {s r t : σ} {es es' : List Entry}
    (ha : Attempts ms s es r) (ha' : Attempts ms' r es' t) :
    Attempts (ms ++ ms') s (es ++ es') t := by
  induction ms generalizing s es with
  | nil =>
    obtain ⟨rfl, rfl⟩ := ha
    exact ha'
  | cons m ms ih =>
    obtain ⟨es₁, es₂, x, q, rfl, hm, hrest⟩ := ha
    exact ⟨es₁, es₂ ++ es', x, q, List.append_assoc .., hm, ih hrest⟩

/-- Attempts may be taken apart where some of them end and the others begin. -/
theorem Attempts.split {ms ms' : List (Trail σ Unit)} {s t : σ} {es : List Entry}
    (ha : Attempts (ms ++ ms') s es t) :
    ∃ es₁ es₂ r, es = es₁ ++ es₂ ∧ Attempts ms s es₁ r ∧ Attempts ms' r es₂ t := by
  induction ms generalizing s es with
  | nil => exact ⟨[], es, s, rfl, ⟨rfl, rfl⟩, ha⟩
  | cons m ms ih =>
    obtain ⟨es₁, rest, x, q, rfl, hm, hrest⟩ := ha
    obtain ⟨es₂, es₃, r, rfl, first, last⟩ := ih hrest
    exact ⟨es₁ ++ es₂, es₃, r, (List.append_assoc ..).symm, ⟨es₁, es₂, x, q, rfl, hm, first⟩, last⟩

/-! ## Laws that live on -/

/-- A law of a state and all that was called before it lives on, whether there is an error or
not. -/
def Keeps (m : Trail σ α) (law : σ → List Entry → Prop) : Prop :=
  ∀ s before es x t, law s before → m s es x t → law t (before ++ es)

variable {law : σ → List Entry → Prop}

theorem keeps_stay : (stay : Trail σ Unit).Keeps law := by
  rintro s before es x t hl ⟨rfl, -, rfl⟩
  rwa [List.append_nil]

/-- A law lives through a sequence if both parts keep it. A first part that fails has kept it too,
so nothing else is needed. -/
theorem Keeps.bind {m : Trail σ α} {f : α → Trail σ β} (hm : m.Keeps law)
    (hf : ∀ v, (f v).Keeps law) : (m.bind f).Keeps law := by
  rintro s before es x t hl (⟨e, -, hes⟩ | ⟨v, es₁, es₂, r, rfl, h₁, h₂⟩)
  · exact hm s before es _ t hl hes
  · rw [← List.append_assoc]
    exact hf v r _ es₂ x t (hm s before es₁ _ r hl h₁) h₂

/-- A law lives through a loop. Each round may assume of what it was called for that it is in the
list. -/
theorem Keeps.forEach {f : β → Trail σ Unit} {bs : List β} (hf : ∀ b ∈ bs, (f b).Keeps law) :
    (Trail.forEach f bs).Keeps law := by
  induction bs with
  | nil => exact keeps_stay
  | cons b bs ih =>
    refine (hf b List.mem_cons_self).bind fun _ => ih fun b' hb => ?_
    exact hf b' (List.mem_cons_of_mem b hb)

/-- A law lives through a run of attempts, failed ones included, with the histories put behind one
another. -/
theorem Keeps.attempts {ms : List (Trail σ Unit)} (hm : ∀ m ∈ ms, m.Keeps law) {s t : σ}
    {before es : List Entry} (hl : law s before) (ha : Attempts ms s es t) :
    law t (before ++ es) := by
  induction ms generalizing s before es with
  | nil =>
    obtain ⟨rfl, rfl⟩ := ha
    rwa [List.append_nil]
  | cons m ms ih =>
    obtain ⟨es₁, es₂, x, r, rfl, h₁, h₂⟩ := ha
    rw [← List.append_assoc]
    refine ih (fun m' hm' => hm m' (List.mem_cons_of_mem m hm')) ?_ h₂
    exact hm m List.mem_cons_self s before es₁ x r hl h₁

/-- A law of a part that lives on is a law of the whole. -/
theorem Keeps.within {part : σ → τ} {replace : τ → σ → σ} {m : Trail τ α}
    {law : τ → List Entry → Prop} (hm : m.Keeps law) (hr : ∀ p s, part (replace p s) = p) :
    (m.within part replace).Keeps fun s => law (part s) := by
  rintro s before es x t hl ⟨p, hes, rfl⟩
  simp only [hr]
  exact hm _ before es x p hl hes

/-- A sequence of actions is a sequence of their trails. -/
theorem of_bind {source : Option Layer} {a : Action σ α} {f : α → Action σ β} :
    of source (a >>= f) = (of source a).bind fun v => of source (f v) := by
  funext s es x t
  refine propext ?_
  constructor
  · rintro ⟨h, rfl, hl⟩
    rcases Action.leads_bind.mp hl with ⟨e, rfl, ha⟩ | ⟨v, h₁, h₂, r, rfl, ha, hf⟩
    · exact .inl ⟨e, rfl, h, rfl, ha⟩
    · refine .inr ⟨v, _, _, r, entries_append source h₁ h₂, ⟨h₁, rfl, ha⟩, h₂, rfl, hf⟩
  · rintro (⟨e, rfl, h, rfl, ha⟩ | ⟨v, _, _, r, rfl, ⟨h₁, rfl, ha⟩, h₂, rfl, hf⟩)
    · exact ⟨h, rfl, Action.leads_bind.mpr (.inl ⟨e, rfl, ha⟩)⟩
    · refine ⟨h₁ ++ h₂, (entries_append source h₁ h₂).symm, Action.leads_bind.mpr (.inr ?_)⟩
      exact ⟨v, h₁, h₂, r, rfl, ha, hf⟩

/-- A loop of actions for one source is a loop of trails for it. -/
theorem of_forM {source : Option Layer} {f : β → Action σ Unit} {bs : List β} :
    of source (bs.forM f) = forEach (fun b => of source (f b)) bs := by
  induction bs with
  | nil =>
    funext s es x t
    refine propext ⟨?_, ?_⟩
    · rintro ⟨h, rfl, ha⟩
      obtain ⟨rfl, hx⟩ := Action.leads_forM_nil.mp ha
      exact ⟨rfl, hx⟩
    · rintro ⟨rfl, hx⟩
      exact ⟨[], rfl, Action.leads_forM_nil.mpr ⟨rfl, hx⟩⟩
  | cons b bs ih =>
    have hb : of source ((b :: bs).forM f) = of source (f b >>= fun _ => bs.forM f) := rfl
    rw [hb, of_bind, ih]
    rfl

/-- The same for an action on a part of a state. -/
theorem of_within {source : Option Layer} {part : σ → τ} {replace : τ → σ → σ} {a : Action τ α} :
    of source (Action.within part replace a) = (of source a).within part replace := by
  funext s es x t
  refine propext ⟨?_, ?_⟩
  · rintro ⟨h, rfl, ha⟩
    obtain ⟨p, hp, ht⟩ := Action.leads_within.mp ha
    exact ⟨p, ⟨h, rfl, hp⟩, ht⟩
  · rintro ⟨p, ⟨h, rfl, ha⟩, ht⟩
    exact ⟨h, rfl, Action.leads_within.mpr ⟨p, ha, ht⟩⟩

/-- Where a state is read, a law may refer to what was read. -/
theorem Keeps.get {source : Option Layer} {f : σ → Trail σ α} (law' : σ → σ → List Entry → Prop)
    (hin : ∀ s es, law s es → law' s s es) (hout : ∀ v s es, law' v s es → law s es)
    (hf : ∀ v, (f v).Keeps (law' v)) : ((of source (get : Action σ σ)).bind f).Keeps law := by
  rintro s before es x t hl (⟨e, -, h, -, hg⟩ | ⟨v, _, es₂, r, rfl, ⟨h, rfl, hg⟩, hfv⟩)
  · obtain ⟨-, he, -⟩ := Action.leads_get.mp hg
    cases he
  · obtain ⟨rfl, hv, rfl⟩ := Action.leads_get.mp hg
    obtain rfl := Except.ok.inj hv
    exact hout v t _ (hf v v before es₂ x t (hin v before hl) hfv)

end Trail

/-! ## Actions with some calls only -/

namespace Action

/-- A part of the state is left alone, and all calls are of a kind. -/
def Spares (ok : Call → Prop) (part : σ → τ) (a : Action σ α) : Prop :=
  ∀ s h x t, a.Leads s h x t → part t = part s ∧ ∀ e ∈ h, ok e.call

variable {ok ok' : Call → Prop} {part : σ → τ}

/-- Calls of a narrower kind are calls of a wider one. -/
theorem Spares.mono {a : Action σ α} (ha : a.Spares ok part) (ho : ∀ c, ok c → ok' c) :
    a.Spares ok' part := by
  intro s h x t hl
  obtain ⟨ht, hc⟩ := ha s h x t hl
  exact ⟨ht, fun e he => ho _ (hc e he)⟩

/-- Only the kind of the calls is known, and nothing is known to be left alone. -/
theorem Spares.forget {a : Action σ α} (ha : a.Spares ok part) : a.Spares ok fun _ => () := by
  intro s h x t hl
  exact ⟨rfl, (ha s h x t hl).2⟩

theorem spares_pure (v : α) : (pure v : Action σ α).Spares ok part := by
  intro s h x t ha
  obtain ⟨rfl, -, rfl⟩ := leads_pure.mp ha
  simp

/-- An answer that was known before needs no call and no state. -/
theorem spares_known (e : Except RenderError α) : Spares ok part (ExceptT.mk (pure e)) := by
  intro s h x t ha
  obtain ⟨rfl, -, rfl⟩ := leads_known.mp ha
  simp

theorem spares_get : (get : Action σ σ).Spares ok part := by
  intro s h x t ha
  obtain ⟨rfl, -, rfl⟩ := leads_get.mp ha
  simp

/-- A change of other parts of the state. -/
theorem spares_modify {f : σ → σ} (hf : ∀ s, part (f s) = part s) :
    (modify f : Action σ PUnit).Spares ok part := by
  intro s h x t ha
  obtain ⟨rfl, -, rfl⟩ := leads_modify.mp ha
  simp [hf]

theorem spares_say (severity : Severity) (speaker : Speaker) (text : String) :
    (say severity speaker text : Action σ Unit).Spares ok part := by
  intro s h x t ha
  obtain ⟨rfl, -, rfl⟩ := leads_say.mp ha
  simp

/-- A command, if it is of the kind. -/
theorem spares_issue {c : Command} (hc : ok (.issue c)) :
    (issue c : Action σ Unit).Spares ok part := by
  intro s h x t ha
  obtain ⟨rfl, rfl⟩ := leads_issue.mp ha
  simpa using hc

/-- The rule of sequencing, with the failure of the first part as one of the cases. -/
theorem Spares.bind {a : Action σ α} {f : α → Action σ β} (ha : a.Spares ok part)
    (hf : ∀ v, (f v).Spares ok part) : (a >>= f).Spares ok part := by
  intro s h x t hl
  rcases leads_bind.mp hl with ⟨e, -, hl⟩ | ⟨v, h₁, h₂, r, rfl, h₁l, h₂l⟩
  · exact ha _ _ _ _ hl
  · obtain ⟨hr, hc⟩ := ha _ _ _ _ h₁l
    obtain ⟨ht, hd⟩ := hf v _ _ _ _ h₂l
    refine ⟨ht.trans hr, fun e he => ?_⟩
    rcases List.mem_append.mp he with he | he
    · exact hc e he
    · exact hd e he

/-- A loop, each of whose rounds leaves the part alone. By induction on what is looped over. -/
theorem Spares.forM {f : β → Action σ Unit} {bs : List β} (hf : ∀ b ∈ bs, (f b).Spares ok part) :
    (bs.forM f).Spares ok part := by
  induction bs with
  | nil => exact spares_pure ()
  | cons b bs ih =>
    refine (hf b List.mem_cons_self).bind fun _ => ih fun b' hb => ?_
    exact hf b' (List.mem_cons_of_mem b hb)

/-- An action on one part leaves another part alone. -/
theorem Spares.within {ρ : Type} {other : σ → ρ} {replace : ρ → σ → σ} {a : Action ρ α}
    (ha : a.Spares ok fun _ => ()) (hr : ∀ p s, part (replace p s) = part s) :
    (Action.within other replace a).Spares ok part := by
  intro s h x t hl
  obtain ⟨p, hp, rfl⟩ := leads_within.mp hl
  exact ⟨hr p s, (ha _ _ _ _ hp).2⟩

/-- A law of a backend that survives notices and calls of a kind survives an action with such calls
only. -/
theorem Spares.preserves {ρ : Type} {b : Backend ρ} {law : ρ → Prop} {a : Action σ α}
    (ha : a.Spares ok part) (hc : ∀ c r, ok c → law r → law (b.perform c r).2)
    (hn : ∀ n r, law r → law (b.notice n r)) (s : σ) {r : ρ} (hr : law r) :
    law (a.play b s r).2.2 := by
  have calls : ∀ e ∈ (a.run.run s).heard b r, ok e.call := (ha _ _ _ _ (leads_heard b a s r)).2
  exact Script.run_preserves hc hn calls hr

/-- An action keeps every law of the part it leaves alone, if its calls do not break the law. -/
theorem Spares.keeps {a : Action σ α} {law : τ → List Entry → Prop} (ha : a.Spares ok part)
    (hl : ∀ p before e, ok e.exchange.call → law p before → law p (before ++ [e]))
    (source : Option Layer) : (Trail.of source a).Keeps fun s => law (part s) := by
  rintro s before es x t hs ⟨h, rfl, hlead⟩
  obtain ⟨ht, hok⟩ := ha s h x t hlead
  rw [ht]
  clear hlead ht
  induction h generalizing before with
  | nil => rwa [entries_nil, List.append_nil]
  | cons e h ih =>
    have he := hl _ _ ⟨source, e⟩ (hok e List.mem_cons_self) hs
    have := ih (before ++ [⟨source, e⟩]) he fun e' he' => hok e' (List.mem_cons_of_mem e he')
    rwa [List.append_assoc] at this

end Action

end LitTiles
