import FederationTrust.Listing

/-!
# What a listing prints

A listing prints the members that are asked for, in their order, each as lines that depend on
nothing but that member, and counts them. Any receiver of text gets these lines one by one.
-/

namespace FederationTrust

namespace ListOptions

def lines (o : ListOptions) (e : Entity) : List String :=
  (e.entityId ++ "\n") :: e.servers.filterMap o.serverLine?
    ++ (if o.clients then e.clients.map fun c => "\t" ++ c.name ++ "\n" else [])
    ++ (if o.serverTags then e.distinctTagSets.map tagLine else [])

def printed (o : ListOptions) (metadata : Metadata) : List Entity :=
  metadata.entities.filter o.selects

variable {m : Type → Type} [Monad m] [LawfulMonad m] {emit : String → m Unit}

/-- A loop that skips what has no line and else emits the line is a loop over the lines. -/
theorem forM_eq_forM_filterMap {α β : Type} {f : α → Option β} {g : β → m Unit} {k : α → m Unit}
    (skips : ∀ a, f a = none → k a = pure ()) (emits : ∀ a b, f a = some b → k a = g b)
    (l : List α) : l.forM k = forM (l.filterMap f) g := by
  induction l with
  | nil => rfl
  | cons a rest ih =>
    show (k a >>= fun _ => rest.forM k) = _
    rw [List.filterMap_cons, ih]
    cases found : f a with
    | none => rw [skips a found, pure_bind]
    | some b => rw [emits a b found, List.forM_cons]

theorem writeEntity_eq_forM (o : ListOptions) (e : Entity) :
    writeEntity emit o e = forM (o.lines e) emit := by
  have optional {α : Type} (asked : Bool) (l : List α) (line : α → String) :
      forM (if asked then l.map line else []) emit =
        if asked then forM l fun a => emit (line a) else pure () := by
    cases asked with
    | false => rw [if_neg Bool.false_ne_true, if_neg Bool.false_ne_true, List.forM_nil]
    | true => rw [if_pos rfl, if_pos rfl, List.forM_map]
  rw [lines, List.forM_append, List.forM_append, List.forM_cons, optional, optional,
    bind_assoc, bind_assoc, writeEntity, forM_eq_forM_filterMap (f := o.serverLine?) (g := emit)]
  · cases o.clients with
    | false =>
      simp only [Bool.false_eq_true, if_false, pure_bind]
      rfl
    | true => rfl
  · intro s absent
    rw [absent]
  · intro s line found
    rw [found]

theorem writeEntities_eq_forM (o : ListOptions) (count : Nat) (entities : List Entity) :
    writeEntities emit o count entities =
      (forM ((entities.filter o.selects).flatMap o.lines) emit >>= fun _ =>
        pure (count + (entities.filter o.selects).length)) := by
  induction entities generalizing count with
  | nil => exact (pure_bind PUnit.unit fun _ => (pure (count + 0) : m Nat)).symm
  | cons e rest ih =>
    rw [writeEntities, List.filter_cons]
    cases o.selects e with
    | false => exact ih count
    | true =>
      rw [if_pos rfl, if_pos rfl, writeEntity_eq_forM, ih, List.flatMap_cons, List.forM_append,
        bind_assoc, List.length_cons, Nat.add_right_comm]
      rfl

/-- A listing writes the lines of all members that it prints and ends with their number. -/
theorem write_eq_forM (o : ListOptions) (metadata : Metadata) :
    o.write emit metadata =
      (forM ((o.printed metadata).flatMap o.lines) emit >>= fun _ =>
        pure (o.printed metadata).length) := by
  rw [write, writeEntities_eq_forM, Nat.zero_add]
  rfl

end ListOptions

namespace Sink

theorem put_nil (sink : Sink) : put [] sink = .ok () sink := by
  obtain ⟨taken, room⟩ := sink
  cases room with
  | none => simp [put]
  | some room => simp [put]

/-- What is put into a sink as a whole can be put into it part by part. -/
theorem put_append (a b : Bytes) (sink : Sink) :
    put (a ++ b) sink = (put a >>= fun _ => put b) sink := by
  obtain ⟨taken, room⟩ := sink
  show _ = EStateM.bind _ _ _
  rw [EStateM.bind]
  cases room with
  | none => simp [put]
  | some room =>
    by_cases first : a.length ≤ room
    · by_cases both : b.length ≤ room - a.length
      · have whole : a.length + b.length ≤ room := by omega
        simp [put, first, both, whole, Nat.sub_sub]
      · have tooLong : ¬ a.length + b.length ≤ room := by omega
        simp [put, first, both, tooLong, List.take_append, List.take_of_length_le first]
    · have tooLong : ¬ a.length + b.length ≤ room := by omega
      simp [put, first, tooLong, List.take_append_of_le_length (Nat.le_of_not_le first)]

theorem forM_put (pieces : List Bytes) (sink : Sink) :
    (forM pieces put : EStateM Unit Sink Unit) sink = put pieces.flatten sink := by
  induction pieces generalizing sink with
  | nil => exact (put_nil sink).symm
  | cons piece rest ih =>
    rw [List.forM_cons, List.flatten_cons, put_append]
    show EStateM.bind _ _ _ = EStateM.bind _ _ _
    rw [funext ih]

end Sink

namespace ListOptions

def octets (o : ListOptions) (metadata : Metadata) : Bytes :=
  ((o.printed metadata).flatMap o.lines).flatMap Bytes.ofText

/-- A listing is as good as its whole text at once, however each line arrives in pieces. -/
theorem write_eq_put {pieces : String → List Bytes}
    (whole : ∀ line, (pieces line).flatten = Bytes.ofText line) (o : ListOptions)
    (metadata : Metadata) (sink : Sink) :
    o.write (fun line => forM (pieces line) Sink.put) metadata sink =
      (Sink.put (o.octets metadata) >>= fun _ => pure (o.printed metadata).length) sink := by
  have lines : forM ((o.printed metadata).flatMap o.lines)
      (fun line => (forM (pieces line) Sink.put : EStateM Unit Sink Unit)) =
        Sink.put (o.octets metadata) := by
    funext sink
    rw [octets]
    generalize (o.printed metadata).flatMap o.lines = lines
    induction lines generalizing sink with
    | nil => exact (Sink.put_nil sink).symm
    | cons line rest ih =>
      rw [List.forM_cons, List.flatMap_cons, Sink.put_append, ← whole]
      show EStateM.bind _ _ _ = EStateM.bind _ _ _
      rw [funext ih, funext (Sink.forM_put _)]
  rw [write_eq_forM, lines]

end ListOptions

theorem listInto_eq_write (sink : Sink) (o : ListOptions) (metadata : Metadata) :
    listInto sink o metadata =
      o.write (fun line => forM [Bytes.ofText line] Sink.put) metadata sink := by
  have single (line : String) : (forM [Bytes.ofText line] Sink.put : EStateM Unit Sink Unit) =
      Sink.put (Bytes.ofText line) := by
    funext sink
    rw [Sink.forM_put, List.flatten_singleton]
  simp only [single]
  rfl

theorem listInto_eq_put (sink : Sink) (o : ListOptions) (metadata : Metadata) :
    listInto sink o metadata =
      (Sink.put (o.octets metadata) >>= fun _ => pure (o.printed metadata).length) sink := by
  rw [listInto_eq_write, ListOptions.write_eq_put fun _ => List.flatten_singleton]

/-- A receiver that takes everything gets the lines of all members that are printed. -/
theorem listInto_unlimited (o : ListOptions) (metadata : Metadata) :
    listInto .unlimited o metadata =
      .ok (o.printed metadata).length ⟨o.octets metadata, none⟩ :=
  listInto_eq_put .unlimited o metadata

end FederationTrust
