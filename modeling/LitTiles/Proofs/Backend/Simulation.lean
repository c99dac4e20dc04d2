import LitTiles.Proofs.Backend.History

/-!
# Simulation of actions

One action simulates another one along a relation of states if, from related states, it can do all
that the other one does: the same calls with the same answers, the same answer in the end, and it
leads to a related state. What differs between related states can then not be told from the calls.

The rules follow the constructs of actions; a part of a state that is read has to be of no
consequence (`Simulates.get_bind`).
-/

namespace LitTiles

namespace Action

variable {σ τ α β : Type} {R : σ → τ → Prop}

/-- From related states one action can do all that another one does. -/
def Simulates (R : σ → τ → Prop) (b : Action τ α) (a : Action σ α) : Prop :=
  ∀ s r h x t, R s r → a.Leads s h x t → ∃ u, b.Leads r h x u ∧ R t u

theorem simulates_pure (v : α) : Simulates R (pure v : Action τ α) (pure v : Action σ α) := by
  intro s r h x t hr hl
  obtain ⟨rfl, rfl, rfl⟩ := leads_pure.mp hl
  exact ⟨r, leads_pure.mpr ⟨rfl, rfl, rfl⟩, hr⟩

/-- Actions that neither look at the state nor change it. -/
theorem simulates_of_blind {a : Action σ α} {b : Action τ α}
    {does : List Exchange → Except RenderError α → Prop}
    (ha : ∀ s h x t, a.Leads s h x t → t = s ∧ does h x)
    (hb : ∀ r h x, does h x → b.Leads r h x r) : Simulates R b a := by
  intro s r h x t hr hl
  obtain ⟨rfl, hd⟩ := ha s h x t hl
  exact ⟨r, hb r h x hd, hr⟩

theorem simulates_say (severity : Severity) (speaker : Speaker) (text : String) :
    Simulates R (say severity speaker text : Action τ Unit)
      (say severity speaker text : Action σ Unit) := by
  intro s r h x t hr hl
  obtain ⟨rfl, rfl, rfl⟩ := leads_say.mp hl
  exact ⟨r, leads_say.mpr ⟨rfl, rfl, rfl⟩, hr⟩

theorem simulates_issue (command : Command) :
    Simulates R (issue command : Action τ Unit) (issue command : Action σ Unit) := by
  intro s r h x t hr hl
  obtain ⟨rfl, rfl⟩ := leads_issue.mp hl
  exact ⟨r, leads_issue.mpr ⟨rfl, rfl⟩, hr⟩

theorem Simulates.bind {a : Action σ α} {b : Action τ α} {f : α → Action σ β} {g : α → Action τ β}
    (hab : Simulates R b a) (hfg : ∀ v, Simulates R (g v) (f v)) :
    Simulates R (b >>= g) (a >>= f) := by
  intro s r h x t hr hl
  rcases leads_bind.mp hl with ⟨e, rfl, ha⟩ | ⟨v, h₁, h₂, s', rfl, ha, hf⟩
  · obtain ⟨u, hb, ht⟩ := hab s r h _ t hr ha
    exact ⟨u, leads_bind.mpr (.inl ⟨e, rfl, hb⟩), ht⟩
  · obtain ⟨r', hb, hr'⟩ := hab s r h₁ _ s' hr ha
    obtain ⟨u, hg, ht⟩ := hfg v s' r' h₂ x t hr' hf
    exact ⟨u, leads_bind.mpr (.inr ⟨v, h₁, h₂, r', rfl, hb, hg⟩), ht⟩

theorem Simulates.forM {f : β → Action σ Unit} {g : β → Action τ Unit} {bs : List β}
    (hfg : ∀ b ∈ bs, Simulates R (g b) (f b)) : Simulates R (bs.forM g) (bs.forM f) := by
  induction bs with
  | nil => exact simulates_pure ()
  | cons b bs ih =>
    refine (hfg b List.mem_cons_self).bind fun _ => ih fun b' hb => ?_
    exact hfg b' (List.mem_cons_of_mem b hb)

end Action

end LitTiles
