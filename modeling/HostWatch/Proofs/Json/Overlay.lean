import HostWatch.Json.Record
set_option autoImplicit false

/-!
# Json: an object laid over a record

An object need not give all fields of a record.  Laid over a record it replaces the fields that it
gives, be it in part where a field is a record again, and leaves the others as they are
(`laidOver`).  It has no result when a given field cannot be read or is given twice.

A reader with stand-ins for what is left out does the same, if it is asked for the fields of the
record one by one (`exists_record_of_laidOver`): the stand-ins have to be the values that are there
already.
-/

namespace HostWatch.Json

variable {σ : Type}

/-- What an object gives for a field. -/
def given? (v : Json) (name : String) : Option Json :=
  match v with
  | .obj members => members.lookup name
  | _ => none

/-! ## Fields -/

/-- A field of a record: its name, how it is got and set, and what a given value laid over the old
one makes. -/
structure FieldOf (σ : Type) where
  {α : Type}
  name : String
  get : σ → α
  set : α → σ → σ
  lay : Json → α → Option α

namespace FieldOf

/-- A field whose value is given as a whole. -/
def whole {α : Type} (name : String) (get : σ → α) (set : α → σ → σ) (read : Json → Option α) :
    FieldOf σ :=
  ⟨name, get, set, fun v _ => read v⟩

/-- A field that is a record or missing: `null` takes the record away, and anything else is laid
over the record that is there, or over the initial one. -/
def optional {τ : Type} (name : String) (get : σ → Option τ) (set : Option τ → σ → σ)
    (initial : τ) (lay : Json → τ → Option τ) : FieldOf σ :=
  ⟨name, get, set, fun v old => Record.nullable (lay · (old.getD initial)) v⟩

/-- The field of a record with what some members give laid over it. -/
def layOn (f : FieldOf σ) (members : List (String × Json)) (s : σ) : Option σ :=
  match members.lookup f.name with
  | none => some s
  | some v => (f.lay v (f.get s)).map (f.set · s)

/-- Setting a field changes this field, as it should, and no other one. -/
structure Lawful (fields : List (FieldOf σ)) : Prop where
  get_set : ∀ f ∈ fields, ∀ a s, f.get (f.set a s) = a
  get_set_other : fields.Pairwise fun f g =>
    (∀ a s, f.get (g.set a s) = f.get s) ∧ ∀ a s, g.get (f.set a s) = g.get s

end FieldOf

/-- A record with an object laid over it, field by field. -/
def laidOver (fields : List (FieldOf σ)) (v : Json) (s : σ) : Option σ :=
  match v with
  | .obj members =>
    if distinct ((members.filter fun m => (fields.map (·.name)).contains m.1).map (·.1)) then
      fields.foldlM (fun s f => f.layOn members s) s
    else none
  | _ => none

/-! ## Reading with stand-ins -/

theorem bind_of_read {α β : Type} {x : Option α} {a : α} {f : α → Option β} {b : β}
    (hx : x = some a) (hf : f a = some b) : (x >>= f) = some b := by
  rw [hx]
  exact hf

namespace Record

variable {α : Type} {r : Record} {name : String} {read read' : Json → Option α}

theorem withDefault_of_find?_none (h : r.find? name = none) (read : Json → Option α) (d : α) :
    r.withDefault name read d = some d := by
  rw [withDefault, h]

theorem withDefault_of_find?_some {v : Json} (h : r.find? name = some v) (read : Json → Option α)
    (d : α) : r.withDefault name read d = read v := by
  rw [withDefault, h]

variable {given : Option Json} {d a : α}

theorem withDefault_cases (hfound : r.find? name = given)
    (h : r.withDefault name read d = some a) :
    (given = none ∧ a = d) ∨ ∃ v, given = some v ∧ read v = some a := by
  cases given with
  | none =>
    rw [withDefault_of_find?_none hfound] at h
    exact .inl ⟨rfl, (Option.some.inj h).symm⟩
  | some v =>
    rw [withDefault_of_find?_some hfound] at h
    exact .inr ⟨v, rfl, h⟩

/-- With another stand-in a field that is given reads the same. -/
theorem withDefault_other (hfound : r.find? name = given)
    (h : r.withDefault name read d = some a) (d' : α) :
    r.withDefault name read d' = some (if given.isSome then a else d') := by
  obtain ⟨rfl, _⟩ | ⟨v, rfl, hv⟩ := withDefault_cases hfound h
  · exact withDefault_of_find?_none hfound read d'
  · rw [withDefault_of_find?_some hfound]
    exact hv

/-- A field that has to be there, and is, needs no stand-in. -/
theorem required_of_withDefault (hgiven : (r.find? name).bind read = some d)
    (h : r.withDefault name read d = some a) : r.required name read = some a := by
  obtain ⟨v, hfind, _⟩ := Option.bind_eq_some_iff.1 hgiven
  rw [withDefault_of_find?_some hfind] at h
  rw [required, hfind]
  exact h

/-- A reader that makes something else of what is given, and the same stand-in of what is not. -/
theorem withDefault_map {f : Json → α → α} (hread : ∀ v b, read v = some b → read' v = some (f v b))
    (hd : f .null d = d) (hfound : r.find? name = given)
    (h : r.withDefault name read d = some a) :
    r.withDefault name read' d = some (f (given.getD .null) a) := by
  obtain ⟨rfl, rfl⟩ | ⟨v, rfl, hv⟩ := withDefault_cases hfound h
  · rw [withDefault_of_find?_none hfound, Option.getD_none, hd]
  · rw [withDefault_of_find?_some hfound]
    exact hread v a hv

/-- A reader that reads more finds the same. -/
theorem withDefault_mono (hread : ∀ v b, read v = some b → read' v = some b)
    (h : r.withDefault name read d = some a) : r.withDefault name read' d = some a :=
  withDefault_map (f := fun _ b => b) hread rfl rfl h

theorem nullable_cases {v : Json} {b : Option α} (h : nullable read v = some b) :
    (v = .null ∧ b = none) ∨ ∃ a, v ≠ .null ∧ read v = some a ∧ b = some a := by
  cases v with
  | null => exact .inl ⟨rfl, (Option.some.inj h).symm⟩
  | _ =>
    obtain ⟨a, ha, rfl⟩ := Option.map_eq_some_iff.1 h
    exact .inr ⟨a, nofun, ha, rfl⟩

theorem nullable_of_ne_null {v : Json} (hv : v ≠ .null) (read : Json → Option α) :
    nullable read v = (read v).map some := by
  cases v with
  | null => exact absurd rfl hv
  | _ => rfl

theorem nullable_map {f : Json → α → α} (hread : ∀ v b, read v = some b → read' v = some (f v b))
    (v : Json) (b : Option α) (h : nullable read v = some b) :
    nullable read' v = some (b.map (f v)) := by
  obtain ⟨rfl, rfl⟩ | ⟨a, hv, ha, rfl⟩ := nullable_cases h
  · rfl
  · rw [nullable_of_ne_null hv, hread v a ha]
    rfl

theorem nullable_mono (hread : ∀ v b, read v = some b → read' v = some b) (v : Json)
    (b : Option α) (h : nullable read v = some b) : nullable read' v = some b := by
  have hsame := nullable_map (f := fun _ b => b) hread v b h
  rwa [Option.map_id_fun'] at hsame

end Record

theorem list?_mono {α : Type} {read read' : Json → Option α}
    (hread : ∀ v b, read v = some b → read' v = some b) (v : Json) (xs : List α)
    (h : list? read v = some xs) : list? read' v = some xs := by
  cases v with
  | arr items =>
    have hitems : items.mapM read = some xs := h
    show items.mapM read' = some xs
    clear h
    induction items generalizing xs with
    | nil => exact hitems
    | cons item items ih =>
      rw [List.mapM_cons] at hitems ⊢
      obtain ⟨x, hx, hrest⟩ := Option.bind_eq_some_iff.1 hitems
      obtain ⟨rest, hrest, hxs⟩ := Option.bind_eq_some_iff.1 hrest
      exact Option.bind_eq_some_iff.2 ⟨x, hread item x hx,
        Option.bind_eq_some_iff.2 ⟨rest, ih rest hrest, hxs⟩⟩
  | _ => cases h

/-! ## Laying over -/

theorem lookup_filter_contains {names : List String} {name : String} (hname : name ∈ names)
    (members : List (String × Json)) :
    (members.filter fun m => names.contains m.1).lookup name = members.lookup name := by
  induction members with
  | nil => rfl
  | cons m members ih =>
    obtain ⟨key, v⟩ := m
    by_cases hkey : name = key
    · subst hkey
      have hknown : names.contains name = true := List.contains_iff_mem.2 hname
      rw [List.filter_cons, if_pos hknown, List.lookup_cons_self, List.lookup_cons_self]
    · have hskip : (name == key) = false := beq_false_of_ne hkey
      rw [List.filter_cons, List.lookup_cons, hskip, ← ih]
      split
      · rw [List.lookup_cons, hskip]
      · rfl

/-- What one step does: nothing if the field is not given, else it sets the field. -/
theorem FieldOf.layOn_cases {f : FieldOf σ} {members : List (String × Json)} {s t : σ}
    (h : f.layOn members s = some t) :
    (members.lookup f.name = none ∧ t = s) ∨
      ∃ v a, members.lookup f.name = some v ∧ f.lay v (f.get s) = some a ∧ t = f.set a s := by
  unfold layOn at h
  cases hgiven : members.lookup f.name with
  | none =>
    rw [hgiven] at h
    exact .inl ⟨rfl, (Option.some.inj h).symm⟩
  | some v =>
    rw [hgiven] at h
    obtain ⟨a, ha, hset⟩ := Option.map_eq_some_iff.1 h
    exact .inr ⟨v, a, rfl, ha, hset.symm⟩

theorem FieldOf.get_layOn_other {f g : FieldOf σ} {members : List (String × Json)} {s t : σ}
    (hother : ∀ a s, f.get (g.set a s) = f.get s) (h : g.layOn members s = some t) :
    f.get t = f.get s := by
  obtain ⟨_, rfl⟩ | ⟨_, a, _, _, rfl⟩ := layOn_cases h
  · rfl
  · exact hother a s

theorem get_foldlM_layOn_other {f : FieldOf σ} {fields : List (FieldOf σ)}
    {members : List (String × Json)} {s t : σ}
    (hother : ∀ g ∈ fields, ∀ a s, f.get (g.set a s) = f.get s)
    (h : fields.foldlM (fun s g => g.layOn members s) s = some t) : f.get t = f.get s := by
  induction fields generalizing s with
  | nil =>
    obtain rfl := Option.some.inj h
    rfl
  | cons g fields ih =>
    rw [List.foldlM_cons] at h
    obtain ⟨u, hu, hrest⟩ := Option.bind_eq_some_iff.1 h
    rw [ih (fun g' hg' => hother g' (.tail _ hg')) hrest]
    exact FieldOf.get_layOn_other (hother g (.head _)) hu

/-- **Every field** of the result is the field that was there with what is given laid over it. -/
theorem layOn_foldlM {fields : List (FieldOf σ)} {members : List (String × Json)} {s t : σ}
    (hlawful : FieldOf.Lawful fields)
    (h : fields.foldlM (fun s f => f.layOn members s) s = some t) :
    ∀ f ∈ fields,
      (match members.lookup f.name with
        | none => some (f.get s)
        | some v => f.lay v (f.get s)) = some (f.get t) := by
  induction fields generalizing s with
  | nil => exact fun f hf => absurd hf List.not_mem_nil
  | cons g fields ih =>
    rw [List.foldlM_cons] at h
    obtain ⟨u, hu, hrest⟩ := Option.bind_eq_some_iff.1 h
    obtain ⟨hother, hpairwise⟩ := List.pairwise_cons.1 hlawful.get_set_other
    have hlawful' : FieldOf.Lawful fields :=
      ⟨fun f hf => hlawful.get_set f (.tail _ hf), hpairwise⟩
    intro f hf
    cases hf with
    | head =>
      -- The field is set by the first step and left alone by the others.
      rw [get_foldlM_layOn_other (fun f hf => (hother f hf).1) hrest]
      obtain ⟨hgiven, rfl⟩ | ⟨v, a, hgiven, ha, rfl⟩ := FieldOf.layOn_cases hu
      · rw [hgiven]
      · rw [hgiven, hlawful.get_set g (.head _)]
        exact ha
    | tail _ hf =>
      have hsame : f.get u = f.get s := FieldOf.get_layOn_other (hother f hf).2 hu
      have hfield := ih hlawful' hrest f hf
      rw [hsame] at hfield
      exact hfield

/-- **An object that can be laid over a record** can be read as a record too, and with the values
that are there as stand-ins its fields are the fields of the result. -/
theorem exists_record_of_laidOver {fields : List (FieldOf σ)} {v : Json} {s t : σ}
    (hlawful : FieldOf.Lawful fields) (format : Format) (h : laidOver fields v s = some t) :
    ∃ r : Record, Record.ofJson? format (fields.map (·.name)) v = some r ∧
      ∀ f ∈ fields, r.find? f.name = v.given? f.name ∧
        r.withDefault f.name (f.lay · (f.get s)) (f.get s) = some (f.get t) := by
  cases v with
  | obj members =>
    let names := fields.map (·.name)
    let known := members.filter fun m => names.contains m.1
    have hsplit : (if distinct (known.map (·.1)) then
        fields.foldlM (fun s f => f.layOn members s) s else none) = some t := h
    by_cases hdistinct : distinct (known.map (·.1)) = true
    case neg =>
      rw [if_neg hdistinct] at hsplit
      cases hsplit
    case pos =>
      rw [if_pos hdistinct] at hsplit
      refine ⟨⟨false, known⟩, if_pos hdistinct, fun f hf => ?_⟩
      have hfind : Record.find? ⟨false, known⟩ f.name = members.lookup f.name :=
        lookup_filter_contains (List.mem_map_of_mem hf) members
      refine ⟨hfind, ?_⟩
      rw [Record.withDefault, hfind]
      exact layOn_foldlM hlawful hsplit f hf
  | _ => cases h

theorem laidOver_cases {fields : List (FieldOf σ)} {v : Json} {s t : σ}
    (hlawful : FieldOf.Lawful fields) (h : laidOver fields v s = some t) :
    ∀ f ∈ fields, (v.given? f.name = none ∧ f.get t = f.get s) ∨
      ∃ w, v.given? f.name = some w ∧ f.lay w (f.get s) = some (f.get t) := by
  obtain ⟨r, _, hfields⟩ := exists_record_of_laidOver hlawful .json h
  intro f hf
  obtain ⟨hfound, hread⟩ := hfields f hf
  exact Record.withDefault_cases hfound hread

end HostWatch.Json
