import Mathlib.Logic.Relation

/-! Breadth-first walks. A queue is worked off from the front; a node whose key was not met before is
visited, and its successors go to the back of the queue. Every node that can be reached is visited, and
nearer nodes come before farther ones. -/

namespace ShapeCompiler.Walk

section

variable {α κ : Type} (key : α → κ) (next : α → List α)

/-- Runs of a walk, with the keys that were met before, the queue, and the nodes visited from there on in
their order. A walk without end has no run. -/
inductive Visits : List κ → List α → List α → Prop where
  | done (seen : List κ) : Visits seen [] []
  | met {seen : List κ} {node : α} {queue order : List α} (known : key node ∈ seen)
      (rest : Visits seen queue order) : Visits seen (node :: queue) order
  | new {seen : List κ} {node : α} {queue order : List α} (fresh : key node ∉ seen)
      (rest : Visits (key node :: seen) (queue ++ next node) order) :
      Visits seen (node :: queue) (node :: order)

def within [DecidableEq κ] : Nat → List κ → List α → List α
  | _, _, [] => []
  | 0, _, _ => []
  | bound + 1, seen, node :: queue =>
      if key node ∈ seen then within bound seen queue
      else node :: within bound (key node :: seen) (queue ++ next node)

end

section

variable {α κ : Type} {key : α → κ} {next : α → List α}

theorem length_filter_not_mem_cons {β : Type} [DecidableEq κ] (owner : β → κ) {seen : List κ}
    {met : κ} (fresh : met ∉ seen) (items : List β) :
    (items.filter fun item => owner item ∉ met :: seen).length +
        (items.filter fun item => owner item = met).length =
      (items.filter fun item => owner item ∉ seen).length := by
  induction items with
  | nil => rfl
  | cons item rest ih =>
      by_cases own : owner item = met
      · simp [own, fresh] at ih ⊢
        omega
      · by_cases known : owner item ∈ seen
        · simpa [own, known] using ih
        · simp [own, known] at ih ⊢
          omega

theorem visits_within {β : Type} [DecidableEq κ] (items : List β) (owner : β → κ) (Inside : α → Prop)
    (closed : ∀ node, Inside node → ∀ other ∈ next node, Inside other)
    (pays : ∀ node, Inside node →
      (next node).length ≤ (items.filter fun item => owner item = key node).length)
    {bound : Nat} {seen : List κ} {queue : List α} (inside : ∀ node ∈ queue, Inside node)
    (enough : queue.length + (items.filter fun item => owner item ∉ seen).length ≤ bound) :
    Visits key next seen queue (within key next bound seen queue) := by
  induction bound generalizing seen queue with
  | zero =>
      cases queue with
      | nil => exact .done seen
      | cons node queue =>
          simp only [List.length_cons] at enough
          omega
  | succ bound ih =>
      cases queue with
      | nil => exact .done seen
      | cons node queue =>
          have first := inside node List.mem_cons_self
          have others : ∀ other ∈ queue, Inside other :=
            fun other waits => inside other (List.mem_cons_of_mem node waits)
          rw [List.length_cons] at enough
          rw [within]
          split
          · rename_i known
            exact .met known (ih others (by omega))
          · rename_i fresh
            -- From here on the items of the node do not count, which pays for its successors.
            have paid := pays node first
            have left := length_filter_not_mem_cons owner fresh items
            refine .new fresh (ih ?_ ?_)
            · intro other waits
              rcases List.mem_append.mp waits with before | behind
              · exact others other before
              · exact closed node first other behind
            · rw [List.length_append]
              omega

theorem Visits.sound {seen : List κ} {queue order : List α} (visits : Visits key next seen queue order)
    {node : α} (visited : node ∈ order) :
    ∃ start ∈ queue, Relation.ReflTransGen (fun node other => other ∈ next node) start node := by
  induction visits with
  | done seen => cases visited
  | met known rest ih =>
      obtain ⟨start, waits, path⟩ := ih visited
      exact ⟨start, List.mem_cons_of_mem _ waits, path⟩
  | @new seen head queue order fresh rest ih =>
      rcases List.mem_cons.mp visited with same | later
      · exact ⟨head, List.mem_cons_self, same ▸ .refl⟩
      · obtain ⟨start, waits, path⟩ := ih later
        rcases List.mem_append.mp waits with before | direct
        · exact ⟨start, List.mem_cons_of_mem head before, path⟩
        · exact ⟨head, List.mem_cons_self, .head direct path⟩

def IsMet (key : α → κ) (seen : List κ) (order : List α) (node : α) : Prop :=
  key node ∈ seen ∨ ∃ other ∈ order, key other = key node

theorem IsMet.of_visit {seen : List κ} {head node : α} {order : List α}
    (met : IsMet key (key head :: seen) order node) : IsMet key seen (head :: order) node := by
  rcases met with known | ⟨other, visited, same⟩
  · rcases List.mem_cons.mp known with same | before
    · exact Or.inr ⟨head, List.mem_cons_self, same.symm⟩
    · exact Or.inl before
  · exact Or.inr ⟨other, List.mem_cons_of_mem head visited, same⟩

theorem Visits.closed {seen : List κ} {queue order : List α}
    (visits : Visits key next seen queue order) :
    (∀ node ∈ queue, IsMet key seen order node) ∧
      ∀ node ∈ order, ∀ other ∈ next node, IsMet key seen order other := by
  induction visits with
  | done seen => exact ⟨nofun, nofun⟩
  | met known rest ih => exact ⟨List.forall_mem_cons.mpr ⟨Or.inl known, ih.1⟩, ih.2⟩
  | @new seen head queue order fresh rest ih =>
      obtain ⟨waiting, successors⟩ := ih
      refine ⟨List.forall_mem_cons.mpr ⟨?_, ?_⟩, List.forall_mem_cons.mpr ⟨?_, ?_⟩⟩
      · exact Or.inr ⟨head, List.mem_cons_self, rfl⟩
      · intro node waits
        exact (waiting node (List.mem_append_left _ waits)).of_visit
      · intro other direct
        exact (waiting other (List.mem_append_right queue direct)).of_visit
      · intro node visited other direct
        exact (successors node visited other direct).of_visit

/-- Where keys tell apart what can be reached from a node, the walk from it visits just that. -/
theorem Visits.mem_iff {start : α} {order : List α} (visits : Visits key next [] [start] order)
    (apart : ∀ left right,
      Relation.ReflTransGen (fun node other => other ∈ next node) start left →
      Relation.ReflTransGen (fun node other => other ∈ next node) start right →
      key left = key right → left = right)
    {node : α} :
    node ∈ order ↔ Relation.ReflTransGen (fun node other => other ∈ next node) start node := by
  have reached : ∀ other ∈ order,
      Relation.ReflTransGen (fun node other => other ∈ next node) start other := by
    intro other visited
    obtain ⟨first, waits, path⟩ := visits.sound visited
    rwa [List.mem_singleton.mp waits] at path
  refine ⟨reached node, fun path => ?_⟩
  have visited {other : α} (met : IsMet key [] order other)
      (path : Relation.ReflTransGen (fun node other => other ∈ next node) start other) :
      other ∈ order := by
    obtain ⟨same, inside, equal⟩ := met.resolve_left List.not_mem_nil
    rwa [apart same other (reached same inside) path equal] at inside
  obtain ⟨waiting, successors⟩ := visits.closed
  induction path with
  | refl => exact visited (waiting start (List.mem_singleton_self start)) .refl
  | tail path direct ih => exact visited (successors _ ih _ direct) (path.tail direct)

end

/-! Distances. -/

section

variable {α : Type} {next : α → List α} {start : α}

inductive Reaches (next : α → List α) (start : α) : Nat → α → Prop where
  | start : Reaches next start 0 start
  | step {distance : Nat} {node other : α} (nearer : Reaches next start distance node)
      (direct : other ∈ next node) : Reaches next start (distance + 1) other

theorem Reaches.reflTransGen {distance : Nat} {node : α} (reaches : Reaches next start distance node) :
    Relation.ReflTransGen (fun node other => other ∈ next node) start node := by
  induction reaches with
  | start => exact .refl
  | step _ direct ih => exact ih.tail direct

/-- The queue holds what is left at one distance and behind it what was found at the next; all that is
nearer was seen. -/
structure Wave (next : α → List α) (start : α) (distance : Nat) (seen front behind : List α) :
    Prop where
  here : ∀ node ∈ front, Reaches next start distance node
  farther : ∀ node ∈ behind, Reaches next start (distance + 1) node
  nearer : ∀ earlier < distance, ∀ node, Reaches next start earlier node → node ∈ seen
  level : ∀ node, Reaches next start distance node → node ∈ seen ∨ node ∈ front
  closed : ∀ node ∈ seen, ∀ other ∈ next node, other ∈ seen ∨ other ∈ front ++ behind

theorem wave_start : Wave next start 0 [] [start] [] := by
  refine ⟨?_, nofun, nofun, ?_, nofun⟩
  · intro node waits
    rw [List.mem_singleton.mp waits]
    exact .start
  · intro node reaches
    cases reaches
    exact Or.inr (List.mem_singleton_self start)

theorem Wave.advance {distance : Nat} {seen behind : List α}
    (wave : Wave next start distance seen [] behind) :
    Wave next start (distance + 1) seen behind [] := by
  have atDistance : ∀ node, Reaches next start distance node → node ∈ seen :=
    fun node reaches => (wave.level node reaches).resolve_right List.not_mem_nil
  refine ⟨wave.farther, nofun, ?_, ?_, ?_⟩
  · intro earlier less node reaches
    rcases Nat.lt_succ_iff_lt_or_eq.mp less with before | same
    · exact wave.nearer earlier before node reaches
    · exact atDistance node (same ▸ reaches)
  · intro node reaches
    cases reaches with
    | step nearer direct => exact wave.closed _ (atDistance _ nearer) node direct
  · simpa using wave.closed

theorem mem_or_mem_of_cons {seen later queue : List α} {head node : α}
    (kept : node ∈ seen ∨ node ∈ head :: queue) (grows : seen ⊆ later) (met : head ∈ later) :
    node ∈ later ∨ node ∈ queue := by
  rcases kept with before | waits
  · exact Or.inl (grows before)
  · rcases List.mem_cons.mp waits with same | behind
    · exact Or.inl (same ▸ met)
    · exact Or.inr behind

theorem Wave.met {distance : Nat} {seen front behind : List α} {node : α} (known : node ∈ seen)
    (wave : Wave next start distance seen (node :: front) behind) :
    Wave next start distance seen front behind := by
  refine ⟨?_, wave.farther, wave.nearer, ?_, ?_⟩
  · intro other waits
    exact wave.here other (List.mem_cons_of_mem node waits)
  · intro other reaches
    exact mem_or_mem_of_cons (wave.level other reaches) (List.Subset.refl seen) known
  · intro other before successor direct
    exact mem_or_mem_of_cons (wave.closed other before successor direct) (List.Subset.refl seen) known

theorem Wave.new {distance : Nat} {seen front behind : List α} {node : α}
    (wave : Wave next start distance seen (node :: front) behind) :
    Wave next start distance (node :: seen) front (behind ++ next node) := by
  have grows : seen ⊆ node :: seen := List.subset_cons_self node seen
  refine ⟨?_, ?_, ?_, ?_, ?_⟩
  · intro other waits
    exact wave.here other (List.mem_cons_of_mem node waits)
  · intro other waits
    rcases List.mem_append.mp waits with before | direct
    · exact wave.farther other before
    · exact .step (wave.here node List.mem_cons_self) direct
  · intro earlier less other reaches
    exact List.mem_cons_of_mem node (wave.nearer earlier less other reaches)
  · intro other reaches
    exact mem_or_mem_of_cons (wave.level other reaches) grows List.mem_cons_self
  · intro other visited successor direct
    rw [← List.append_assoc]
    rcases List.mem_cons.mp visited with same | before
    · exact Or.inr (List.mem_append_right _ (same ▸ direct))
    · have kept := wave.closed other before successor direct
      rcases mem_or_mem_of_cons kept grows List.mem_cons_self with met | waits
      · exact Or.inl met
      · exact Or.inr (List.mem_append_left _ waits)

theorem Wave.head {distance : Nat} {seen front behind queue : List α} {node : α}
    (wave : Wave next start distance seen front behind) (whole : node :: queue = front ++ behind) :
    ∃ distance front behind, queue = front ++ behind ∧
      Wave next start distance seen (node :: front) behind := by
  cases front with
  | nil =>
      rw [List.nil_append] at whole
      -- Nothing is left at this distance, so the node is the first of the next.
      exact ⟨distance + 1, queue, [], (List.append_nil queue).symm, whole ▸ wave.advance⟩
  | cons first front =>
      rw [List.cons_append, List.cons.injEq] at whole
      obtain ⟨rfl, rest⟩ := whole
      exact ⟨distance, front, behind, rest, wave⟩

theorem Visits.nearest_of_wave {seen queue order : List α} (visits : Visits id next seen queue order)
    {distance : Nat} {front behind : List α} (wave : Wave next start distance seen front behind)
    (whole : queue = front ++ behind) {before after : List α} {node : α}
    (split : order = before ++ node :: after) :
    ∃ distance, Reaches next start distance node ∧
      ∀ nearer < distance, ∀ other, Reaches next start nearer other →
        other ∈ seen ∨ other ∈ before := by
  induction visits generalizing distance front behind before with
  | done seen => simp at split
  | met known rest ih =>
      obtain ⟨distance, front, behind, whole, wave⟩ := wave.head whole
      exact ih (wave.met known) whole split
  | @new seen head queue order fresh rest ih =>
      obtain ⟨distance, front, behind, whole, wave⟩ := wave.head whole
      -- Either the node is the one visited here, or the wave goes on to it.
      cases before with
      | nil =>
          rw [List.nil_append, List.cons.injEq] at split
          obtain ⟨rfl, _⟩ := split
          refine ⟨distance, wave.here head List.mem_cons_self, ?_⟩
          intro nearer less other reaches
          exact Or.inl (wave.nearer nearer less other reaches)
      | cons first before =>
          rw [List.cons_append, List.cons.injEq] at split
          obtain ⟨rfl, split⟩ := split
          obtain ⟨distance, reaches, nearest⟩ :=
            ih wave.new (by rw [whole, List.append_assoc]) split
          refine ⟨distance, reaches, fun nearer less other reached => ?_⟩
          rcases nearest nearer less other reached with known | visited
          · rcases List.mem_cons.mp known with same | earlier
            · exact Or.inr (same ▸ List.mem_cons_self)
            · exact Or.inl earlier
          · exact Or.inr (List.mem_cons_of_mem head visited)

theorem Visits.nearest_first {order before after : List α} {node : α}
    (visits : Visits id next [] [start] order) (split : order = before ++ node :: after) :
    ∃ distance, Reaches next start distance node ∧
      ∀ nearer < distance, ∀ other, Reaches next start nearer other → other ∈ before := by
  obtain ⟨distance, reaches, nearest⟩ := visits.nearest_of_wave wave_start rfl split
  refine ⟨distance, reaches, fun nearer less other reached => ?_⟩
  exact (nearest nearer less other reached).resolve_left List.not_mem_nil

end

end ShapeCompiler.Walk
