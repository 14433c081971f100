import LaneFlow.Document.Codec

/-!
# Faithful codecs

What a codec has to keep for a document to come back: that a reader finds the
tree that was written, scalar by scalar, and that each scalar is read as what it
was.  Both are asked only of what is written at all.  The keys of records are
texts, and which numbers come back is left open: a codec may round some of them.
Readers also may refuse to follow lists and records beyond some depth.

## Main results

* `Tree.map_map` — documents that are changed scalar by scalar, twice.
* `Transcribes` — each scalar is read as what it was.
* `Codec.Faithful` — what is written is found.
-/

namespace LaneFlow.Document

namespace Tree

variable {σ τ υ : Type}

/-! ## Changing scalars -/

mutual

/-- A document whose scalars are changed. -/
def map (f : σ → τ) : Tree σ → Tree τ
  | .scalar value => .scalar (f value)
  | .list items => .list (mapItems f items)
  | .record entries => .record (mapEntries f entries)

/-- Documents whose scalars are changed. -/
def mapItems (f : σ → τ) : List (Tree σ) → List (Tree τ)
  | [] => []
  | item :: rest => map f item :: mapItems f rest

/-- Entries whose scalars are changed. -/
def mapEntries (f : σ → τ) : List (Tree σ × Tree σ) → List (Tree τ × Tree τ)
  | [] => []
  | (key, value) :: rest => (map f key, map f value) :: mapEntries f rest

end

theorem mapItems_eq (f : σ → τ) (items : List (Tree σ)) :
    mapItems f items = items.map (map f) := by
  induction items with
  | nil => rfl
  | cons t items ih => rw [mapItems, ih, List.map_cons]

theorem mapEntries_eq (f : σ → τ) (entries : List (Tree σ × Tree σ)) :
    mapEntries f entries = entries.map fun e => (map f e.1, map f e.2) := by
  induction entries with
  | nil => rfl
  | cons e entries ih => rw [mapEntries, ih, List.map_cons]

mutual

theorem map_map (f : σ → τ) (g : τ → υ) :
    ∀ t : Tree σ, (t.map f).map g = t.map fun x => g (f x)
  | .scalar _ => rfl
  | .list items => congrArg Tree.list (mapItems_mapItems f g items)
  | .record entries => congrArg Tree.record (mapEntries_mapEntries f g entries)

theorem mapItems_mapItems (f : σ → τ) (g : τ → υ) :
    ∀ items : List (Tree σ),
      mapItems g (mapItems f items) = mapItems (fun x => g (f x)) items
  | [] => rfl
  | item :: rest => by
      simp only [mapItems, map_map f g item, mapItems_mapItems f g rest]

theorem mapEntries_mapEntries (f : σ → τ) (g : τ → υ) :
    ∀ entries : List (Tree σ × Tree σ),
      mapEntries g (mapEntries f entries) =
        mapEntries (fun x => g (f x)) entries
  | [] => rfl
  | (key, value) :: rest => by
      simp only [mapEntries, map_map f g key, map_map f g value,
        mapEntries_mapEntries f g rest]

end

/-! ## Documents that can be written -/

/-- A document with texts for keys and numbers of some kind, in which no more
than so many lists and records are inside each other. -/
inductive Writable (keeps : Float → Prop) : Nat → Tree (Value Float) → Prop
  | scalar {depth : Nat} {v : Value Float} (h : ∀ x, v = .number x → keeps x) :
      Writable keeps depth (.scalar v)
  | list {depth : Nat} {items : List (Tree (Value Float))}
      (h : ∀ t ∈ items, Writable keeps depth t) :
      Writable keeps (depth + 1) (.list items)
  | record {depth : Nat}
      {entries : List (Tree (Value Float) × Tree (Value Float))}
      (hkeys : ∀ e ∈ entries, ∃ name, e.1 = .ofText name)
      (hvalues : ∀ e ∈ entries, Writable keeps depth e.2) :
      Writable keeps (depth + 1) (.record entries)

end Tree

/-! ## What is found -/

/-- Each scalar that is written is read as what it was, with numbers of some
kind. -/
structure Transcribes {σ : Type} [Leaf σ Float] (keeps : Float → Prop)
    (found : Value Float → σ) : Prop where
  text?_eq : ∀ s, Leaf.text? (found (.text s)) = some s
  number?_eq : ∀ x, keeps x → Leaf.number? (found (.number x)) = some x
  isUnset_null : Leaf.isUnset (found .null) = true
  isUnset_text : ∀ s, Leaf.isUnset (found (.text s)) = false
  isUnset_number : ∀ x, keeps x → Leaf.isUnset (found (.number x)) = false

/-- A codec that finds what it has written.  Its reader follows a hundred lists
and records that are inside each other. -/
structure Codec.Faithful [Codec] (keeps : Float → Prop)
    (found : Value Float → Codec.JsonValue) : Prop
    extends Transcribes keeps found where
  readJson_writeJson : ∀ t : Tree (Value Float), t.Writable keeps 100 →
    Codec.readJson ⟨Codec.writeJson t, true⟩ = t.map found

end LaneFlow.Document
