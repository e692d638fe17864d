/-
What a builder remembers of its history: of each field, the value that it was given last, and nothing else. So
histories that leave the same last values build alike, whatever was asked for before, in which order, one by one or by
configurations, directly or in a body: the values are the same, and either both hand the basis back or neither does.

- `Request.sets?`, `lastSet?`: what a request gives a field, and what a history leaves it with.
- `get_handle`, `get_foldl_handle`: a step gives its fields their values, and a run those of the last step that does.
- `foldl_take_congr`: histories with the same last values make the same builder.
- `build_foldl_take`: it comes to the same whether values are brought into their range when they are asked for or at
  the build.
- `same_get_build`: each field is built from the value that it was given last.
- `build_history_irrelevant`: all of this for what callers do.
-/
import AccessibleWalk.Proofs.Walk.Rebuild

namespace AccessibleWalk

/-! ## What is kept of a value -/

namespace WalkField

/-- the same value, where lists of surfaces stand for sets -/
def Alike : (f : WalkField) → f.Value → f.Value → Prop
  | .reluctedSurfaces, l, m => ∀ s : Surface, s ∈ (l : List Surface) ↔ s ∈ (m : List Surface)
  | _, v, w => v = w

theorem alike_refl (f : WalkField) (v : f.Value) : f.Alike v v := by
  cases f with
  | reluctedSurfaces => exact fun _ => Iff.rfl
  | _ => rfl

theorem alike_self (f : WalkField) (value : Option f.Value) : Option.Rel f.Alike value value := by
  cases value with
  | none => exact .none
  | some v => exact .some (f.alike_refl v)

theorem kept_congr {f : WalkField} {v w : f.Value} (h : f.Alike v w) : f.kept v = f.kept w := by
  cases f with
  | reluctedSurfaces => exact normalize_surfaces_congr h
  | _ => exact congrArg _ h

theorem clamp_clamp (x : Binary64) : (x.clamp 0 1).clamp 0 1 = x.clamp 0 1 := by
  have hzero : (0 : Binary64).clamp 0 1 = 0 := by decide +kernel
  have hone : (1 : Binary64).clamp 0 1 = 1 := by decide +kernel
  by_cases hlow : x.less 0 = true
  · have hx : x.clamp 0 1 = 0 := by rw [Binary64.clamp, if_pos hlow]
    rw [hx, hzero]
  · by_cases hhigh : (1 : Binary64).less x = true
    · have hx : x.clamp 0 1 = 1 := by rw [Binary64.clamp, if_neg hlow, if_pos hhigh]
      rw [hx, hone]
    · have hx : x.clamp 0 1 = x := by rw [Binary64.clamp, if_neg hlow, if_neg hhigh]
      rw [hx, hx]

/-- **Nothing that is lost at once would have mattered**: the normal form is that of what is kept. -/
theorem normalize_kept (f : WalkField) (v : f.Value) : f.normalize (f.kept v) = f.normalize v := by
  cases f with
  | boardCost => exact cost_cost v
  | safetyFactor => exact congrArg (Units.roundTo 2) (clamp_clamp v)
  | reluctedSurfaces => exact normalize_surfaces v
  | _ => rfl

end WalkField

/-! ## What requests set -/

namespace Request

/-- the value that a request gives a field, if it gives it one -/
def sets? : Request → (f : WalkField) → Option f.Value
  | .field k v, f => if h : k = f then some (h ▸ v) else none
  | .config c, f => c.get f

@[simp] theorem sets?_field_self (f : WalkField) (v : f.Value) : (Request.field f v).sets? f = some v := by simp [sets?]

@[simp] theorem sets?_field_of_ne {k f : WalkField} (h : k ≠ f) (v : k.Value) : (Request.field k v).sets? f = none := by
  simp [sets?, h]

theorem sets?_kept (r : Request) (f : WalkField) : r.kept.sets? f = (r.sets? f).map f.kept := by
  cases r with
  | config c => rfl
  | field k v =>
    by_cases hk : k = f
    · subst hk
      rw [kept, sets?_field_self, sets?_field_self, Option.map_some]
    · rw [kept, sets?_field_of_ne hk, sets?_field_of_ne hk, Option.map_none]

end Request

/-- the value that a field was given last, if it was given any -/
def lastSet? (requests : List Request) (f : WalkField) : Option f.Value := requests.reverse.findSome? fun r => r.sets? f

theorem lastSet?_append (earlier later : List Request) (f : WalkField) :
    lastSet? (earlier ++ later) f = (lastSet? later f).or (lastSet? earlier f) := by
  simp [lastSet?, List.findSome?_append]

theorem lastSet?_cons (r : Request) (requests : List Request) (f : WalkField) :
    lastSet? (r :: requests) f = (lastSet? requests f).or (r.sets? f) := by
  simp [lastSet?]

@[simp] theorem lastSet?_singleton (r : Request) (f : WalkField) : lastSet? [r] f = r.sets? f := by
  simp [lastSet?]

theorem lastSet?_pair (r r' : Request) (f : WalkField) : lastSet? [r, r'] f = (r'.sets? f).or (r.sets? f) := by
  rw [lastSet?_cons, lastSet?_singleton]

theorem lastSet?_kept (requests : List Request) (f : WalkField) :
    lastSet? (requests.map Request.kept) f = (lastSet? requests f).map f.kept := by
  simp only [lastSet?, ← List.map_reverse, List.findSome?_map, List.map_findSome?, Function.comp_def, Request.sets?_kept]

theorem exists_of_lastSet? {requests : List Request} {f : WalkField} {v : f.Value} (h : lastSet? requests f = some v) :
    ∃ r ∈ requests, r.sets? f = some v := by
  obtain ⟨r, hr, hv⟩ := List.exists_of_findSome?_eq_some h
  exact ⟨r, List.mem_reverse.1 hr, hv⟩

theorem lastSet?_ne_none {requests : List Request} {f : WalkField} {v : f.Value} {r : Request} (hr : r ∈ requests)
    (hv : r.sets? f = some v) : lastSet? requests f ≠ none := by
  intro h
  have := List.findSome?_eq_none_iff.1 h r (List.mem_reverse.2 hr)
  rw [hv] at this
  cases this

namespace WalkConfig

/-- a configuration as requests for its fields, one by one -/
def requests (c : WalkConfig) : List Request := WalkField.all.filterMap fun f => (c.get f).map (Request.field f)

theorem exists_mem_requests_iff {c : WalkConfig} {f : WalkField} {v : f.Value} :
    (∃ r ∈ c.requests, r.sets? f = some v) ↔ c.get f = some v := by
  constructor
  · rintro ⟨r, hr, hv⟩
    obtain ⟨k, -, hk⟩ := List.mem_filterMap.1 hr
    obtain ⟨w, hw, rfl⟩ := Option.map_eq_some_iff.1 hk
    by_cases hkf : k = f
    · subst hkf
      rw [Request.sets?_field_self] at hv
      rw [hw, hv]
    · rw [Request.sets?_field_of_ne hkf] at hv
      cases hv
  · intro h
    refine ⟨.field f v, List.mem_filterMap.2 ⟨f, f.mem_all, ?_⟩, Request.sets?_field_self f v⟩
    rw [h, Option.map_some]

/-- no field is asked for twice -/
theorem lastSet?_requests (c : WalkConfig) (f : WalkField) : lastSet? c.requests f = c.get f := by
  cases hlast : lastSet? c.requests f with
  | some v => exact (exists_mem_requests_iff.1 (exists_of_lastSet? hlast)).symm
  | none =>
    cases hc : c.get f with
    | none => rfl
    | some v =>
      obtain ⟨r, hr, hv⟩ := exists_mem_requests_iff.2 hc
      exact absurd hlast (lastSet?_ne_none hr hv)

end WalkConfig

/-! ## Builders -/

namespace WalkBuilder

theorem eq_of_get {b b' : WalkBuilder} (hbasis : b.basis = b'.basis) (h : ∀ f, b.values.get f = b'.values.get f) :
    b = b' := by
  obtain ⟨basis, values⟩ := b
  obtain ⟨basis', values'⟩ := b'
  have hvalues : values = values' := WalkPreferences.ext (funext h)
  have hbasis : basis = basis' := hbasis
  rw [hbasis, hvalues]

/-- **A step** gives its fields their values and leaves the others. -/
theorem get_handle (b : WalkBuilder) (r : Request) (f : WalkField) :
    (b.handle r).values.get f = (r.sets? f).getD (b.values.get f) := by
  cases r with
  | config c => rfl
  | field k v =>
    by_cases hk : k = f
    · subst hk
      rw [Request.sets?_field_self]
      exact WalkPreferences.get_put_self b.values k v
    · rw [Request.sets?_field_of_ne hk]
      exact WalkPreferences.get_put_of_ne hk b.values v

/-- **A run** leaves each field with the value that it was given last. -/
theorem get_foldl_handle (requests : List Request) (b : WalkBuilder) (f : WalkField) :
    (requests.foldl handle b).values.get f = (lastSet? requests f).getD (b.values.get f) := by
  induction requests generalizing b with
  | nil => rfl
  | cons r requests ih =>
    rw [List.foldl_cons, ih, get_handle, lastSet?_cons]
    cases lastSet? requests f with
    | some v => rfl
    | none => rfl

theorem foldl_take_eq (requests : List Request) (b : WalkBuilder) :
    requests.foldl take b = (requests.map Request.kept).foldl handle b := by
  rw [List.foldl_map]
  rfl

theorem basis_foldl_take (requests : List Request) (b : WalkBuilder) : (requests.foldl take b).basis = b.basis := by
  rw [foldl_take_eq, basis_foldl_handle]

theorem get_foldl_take (requests : List Request) (b : WalkBuilder) (f : WalkField) :
    (requests.foldl take b).values.get f = ((lastSet? requests f).map f.kept).getD (b.values.get f) := by
  rw [foldl_take_eq, get_foldl_handle, lastSet?_kept]

/-- **Histories with the same last values make the same builder.** -/
theorem foldl_take_congr {requests requests' : List Request}
    (h : ∀ f : WalkField, Option.Rel f.Alike (lastSet? requests f) (lastSet? requests' f)) (b : WalkBuilder) :
    requests.foldl take b = requests'.foldl take b := by
  refine eq_of_get (by rw [basis_foldl_take, basis_foldl_take]) fun f => ?_
  rw [get_foldl_take, get_foldl_take]
  have hf := h f
  generalize lastSet? requests f = last, lastSet? requests' f = last' at hf ⊢
  cases hf with
  | none => rfl
  | some hv => rw [Option.map_some, Option.map_some, WalkField.kept_congr hv]

theorem foldl_take_of_eq (requests requests' : List Request) (b : WalkBuilder)
    (h : ∀ f, lastSet? requests f = lastSet? requests' f) : requests.foldl take b = requests'.foldl take b := by
  refine foldl_take_congr (fun f => ?_) b
  rw [h f]
  exact f.alike_self _

/-- **Different fields may be asked for in any order.** -/
theorem take_comm (b : WalkBuilder) {f g : WalkField} (h : f ≠ g) (v : f.Value) (w : g.Value) :
    (b.take (.field f v)).take (.field g w) = (b.take (.field g w)).take (.field f v) := by
  refine foldl_take_of_eq [.field f v, .field g w] [.field g w, .field f v] b fun k => ?_
  rw [lastSet?_pair, lastSet?_pair]
  by_cases hf : f = k
  · subst hf
    rw [Request.sets?_field_of_ne (Ne.symm h), Option.none_or, Option.or_none]
  · rw [Request.sets?_field_of_ne hf, Option.none_or, Option.or_none]

/-- **Of two configurations the second one wins**, field by field. -/
theorem take_override (b : WalkBuilder) (c d : WalkConfig) :
    (b.take (.config c)).take (.config d) = b.take (.config (c.override d)) := by
  refine foldl_take_of_eq [.config c, .config d] [.config (c.override d)] b fun f => ?_
  rw [lastSet?_pair, lastSet?_singleton]
  rfl

/-- **A configuration asks for its fields one by one.** -/
theorem take_config (b : WalkBuilder) (c : WalkConfig) : b.take (.config c) = c.requests.foldl take b := by
  refine foldl_take_of_eq [.config c] c.requests b fun f => ?_
  rw [lastSet?_singleton, c.lastSet?_requests]
  rfl

/-! ## Builds -/

/-- a build depends on the basis and the normal forms -/
theorem build_congr {b b' : WalkBuilder} (hbasis : b.basis = b'.basis)
    (h : ∀ f : WalkField, f.normalize (b.values.get f) = f.normalize (b'.values.get f)) (serial : Nat) :
    b.build serial = b'.build serial := by
  have hvalues : b.values.normalized = b'.values.normalized := WalkPreferences.ext (funext h)
  rw [build, build, hvalues, hbasis]

/-- the serial number does not matter for the values -/
theorem value_build (b : WalkBuilder) (serial serial' : Nat) : (b.build serial).value = (b.build serial').value := by
  unfold build
  dsimp only
  split_ifs
  · rfl
  · rfl

/-- **Values may be brought into their range at once or at the build.** -/
theorem build_foldl_take (requests : List Request) (b : WalkBuilder) (serial : Nat) :
    (requests.foldl take b).build serial = (requests.foldl handle b).build serial := by
  refine build_congr (by rw [basis_foldl_take, basis_foldl_handle]) (fun f => ?_) serial
  rw [get_foldl_take, get_foldl_handle]
  cases lastSet? requests f with
  | none => rfl
  | some v => exact f.normalize_kept v

/-- what is built agrees with the normal forms, be it new or the basis -/
theorem same_build (b : WalkBuilder) (serial : Nat) : b.values.normalized.same (b.build serial).value = true := by
  unfold build
  dsimp only
  split_ifs with hsame
  · exact hsame
  · exact WalkPreferences.same_iff.2 fun f => f.setting.same_refl _

/-- **Each field is built from the value that it was given last**, and from that of the basis if it was given none. -/
theorem same_get_build (requests : List Request) (b : WalkBuilder) (serial : Nat) (f : WalkField) :
    f.same (f.normalize ((lastSet? requests f).getD (b.values.get f)))
      (((requests.foldl take b).build serial).value.get f) = true := by
  have hfield := WalkPreferences.same_iff.1 (same_build (requests.foldl handle b) serial) f
  rw [WalkPreferences.get_normalized, get_foldl_handle] at hfield
  rw [build_foldl_take]
  exact hfield

/-! ## Callers -/

/-- what a caller does with a builder: one request, or a body of requests that the builder is handed through -/
inductive Move where
  | ask (r : Request)
  | run (body : List Request)

def Move.requests : Move → List Request
  | .ask r => [r]
  | .run body => body

def perform (b : WalkBuilder) : Move → WalkBuilder
  | .ask r => b.take r
  | .run body => b.run fun b => body.foldl take b

theorem foldl_perform (moves : List Move) (b : WalkBuilder) :
    moves.foldl perform b = (moves.flatMap Move.requests).foldl take b := by
  induction moves generalizing b with
  | nil => rfl
  | cons m moves ih =>
    rw [List.foldl_cons, List.flatMap_cons, List.foldl_append, ih]
    cases m with
    | ask r => rfl
    | run body => rfl

/-- **Callers who leave the same last values build alike**: the same values, and both the basis or neither. -/
theorem build_congr_of_alike {basis : SharedPreferences} {moves moves' : List Move}
    (h : ∀ f : WalkField, Option.Rel f.Alike (lastSet? (moves.flatMap Move.requests) f)
      (lastSet? (moves'.flatMap Move.requests) f)) (serial serial' : Nat) :
    ((moves.foldl perform (.copyOf basis)).build serial).value =
        ((moves'.foldl perform (.copyOf basis)).build serial').value ∧
      ((moves.foldl perform (.copyOf basis)).build serial = basis ↔
        (moves'.foldl perform (.copyOf basis)).build serial' = basis) := by
  have hbasis : (moves.foldl perform (.copyOf basis)).basis = basis := by rw [foldl_perform, basis_foldl_take]; rfl
  have hbuilder : moves'.foldl perform (.copyOf basis) = moves.foldl perform (.copyOf basis) := by
    rw [foldl_perform, foldl_perform, foldl_take_congr h]
  have hback (serial : Nat) := (moves.foldl perform (.copyOf basis)).build_eq_basis_iff serial
  rw [hbasis] at hback
  rw [hbuilder]
  exact ⟨value_build _ serial serial', (hback serial).trans (hback serial').symm⟩

/-- a configuration builds what a caller builds who asks for the same values -/
theorem build_config {c : WalkConfig} {requests : List Request}
    (h : ∀ f : WalkField, Option.Rel f.Alike (c.get f) (lastSet? requests f)) (serial : Nat) :
    c.build serial = (requests.foldl take .start).build serial := by
  have hconfig : c.build serial = ([Request.config c].foldl take .start).build serial :=
    (build_foldl_take [.config c] .start serial).symm
  have hbuilder : [Request.config c].foldl take .start = requests.foldl take .start :=
    foldl_take_congr (fun f => by rw [lastSet?_singleton]; exact h f) .start
  rw [hconfig, hbuilder]

/-- **The history of a builder does not matter, but for the last value of each field.** Callers who leave the same
last values build the same values, and both get the basis back or neither does. What they build agrees with the normal
forms of the last values, and of those of the basis where there is none. Setters of different fields commute, two
configurations are one that overrides the other, a configuration is its fields asked for one by one, and its own build
is that of any caller who asks for the same. -/
theorem build_history_irrelevant :
    (∀ (basis : SharedPreferences) (moves moves' : List Move),
      (∀ f : WalkField, Option.Rel f.Alike (lastSet? (moves.flatMap Move.requests) f)
        (lastSet? (moves'.flatMap Move.requests) f)) →
      ∀ serial serial' : Nat,
        ((moves.foldl perform (.copyOf basis)).build serial).value =
            ((moves'.foldl perform (.copyOf basis)).build serial').value ∧
          ((moves.foldl perform (.copyOf basis)).build serial = basis ↔
            (moves'.foldl perform (.copyOf basis)).build serial' = basis)) ∧
    (∀ (basis : SharedPreferences) (moves : List Move) (serial : Nat) (f : WalkField),
      f.same (f.normalize ((lastSet? (moves.flatMap Move.requests) f).getD (basis.value.get f)))
        (((moves.foldl perform (.copyOf basis)).build serial).value.get f) = true) ∧
    (∀ (b : WalkBuilder) {f g : WalkField}, f ≠ g → ∀ (v : f.Value) (w : g.Value),
      (b.take (.field f v)).take (.field g w) = (b.take (.field g w)).take (.field f v)) ∧
    (∀ (b : WalkBuilder) (c d : WalkConfig),
      (b.take (.config c)).take (.config d) = b.take (.config (c.override d))) ∧
    (∀ (b : WalkBuilder) (c : WalkConfig), b.take (.config c) = c.requests.foldl take b) ∧
    (∀ (c : WalkConfig) (requests : List Request),
      (∀ f : WalkField, Option.Rel f.Alike (c.get f) (lastSet? requests f)) →
      ∀ serial : Nat, c.build serial = (requests.foldl take .start).build serial) ∧
    ∀ (requests : List Request) (b : WalkBuilder) (serial : Nat),
      (requests.foldl take b).build serial = (requests.foldl handle b).build serial := by
  refine ⟨fun basis moves moves' h serial serial' => build_congr_of_alike h serial serial',
    fun basis moves serial f => ?_, take_comm, take_override, take_config, fun c requests => build_config,
    build_foldl_take⟩
  rw [foldl_perform]
  exact same_get_build (moves.flatMap Move.requests) (.copyOf basis) serial f

/-- what a caller may want who speaks in configurations -/
def wishes : WalkConfig :=
  (WalkConfig.empty.put .safetyFactor (some (1.7 : Binary64))).put .reluctedSurfaces (some [.sand, .grass, .sand])

/-- asks for a speed, for other things by a configuration, and for another speed in a body -/
def hasty : List Move :=
  [.ask (.field .speed (5 : Binary64)), .ask (.config wishes), .run [.field .speed (1.9 : Binary64)]]

/-- asks for the same things one by one, and for no more -/
def calm : List Move :=
  [.run [.field .reluctedSurfaces [.grass, .sand], .field .speed (1.9 : Binary64)],
    .ask (.field .safetyFactor (1.7 : Binary64))]

/-- a hasty and a calm caller build the same, and so does a configuration -/
theorem build_hasty :
    (∀ f : WalkField, Option.Rel f.Alike (lastSet? (hasty.flatMap Move.requests) f)
      (lastSet? (calm.flatMap Move.requests) f)) ∧
      ((hasty.foldl perform .start).build 1).value = ((calm.foldl perform .start).build 2).value ∧
      ((hasty.foldl perform .start).build 1 = .default ↔ (calm.foldl perform .start).build 2 = .default) ∧
      WalkField.speed.same (1.9 : Binary64) (((hasty.foldl perform .start).build 1).value.get .speed) = true ∧
      (start.take (.field .speed (5 : Binary64))).take (.field .bevEtat BevEtat.bad) =
        (start.take (.field .bevEtat BevEtat.bad)).take (.field .speed (5 : Binary64)) ∧
      wishes.build 1 = (wishes.requests.foldl take .start).build 1 := by
  have hmoves : ∀ f : WalkField, Option.Rel f.Alike (lastSet? (hasty.flatMap Move.requests) f)
      (lastSet? (calm.flatMap Move.requests) f) := by
    intro f
    cases f with
    | speed | safetyFactor => exact .some rfl
    | reluctedSurfaces => exact .some (by intro s; cases s <;> decide)
    | _ => exact .none
  have hwishes : ∀ f : WalkField, Option.Rel f.Alike (wishes.get f) (lastSet? wishes.requests f) := by
    intro f
    rw [wishes.lastSet?_requests]
    exact f.alike_self _
  obtain ⟨hbuilds, hlast, hcomm, -, -, hconfig, -⟩ := build_history_irrelevant
  obtain ⟨hvalue, hback⟩ := hbuilds .default hasty calm hmoves 1 2
  have hgiven : lastSet? (hasty.flatMap Move.requests) .speed = some (1.9 : Binary64) := rfl
  have hstart : copyOf .default = start := rfl
  have hspeed := hlast .default hasty 1 .speed
  have hnormal : WalkField.speed.normalize (1.9 : Binary64) = (1.9 : Binary64) := by decide +kernel
  rw [hgiven, Option.getD_some, hnormal, hstart] at hspeed
  exact ⟨hmoves, hvalue, hback, hspeed, hcomm start (by decide) _ _, hconfig wishes wishes.requests hwishes 1⟩

end WalkBuilder

end AccessibleWalk
