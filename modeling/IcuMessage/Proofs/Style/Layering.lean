import IcuMessage.Proofs.Outcome
import Mathlib.Data.List.Perm.Basic

/-!
# Options that are settled piece by piece

A skeleton is read piece by piece.  A piece settles some options or is refused, and
what it settles is laid over what the pieces before it have settled.  All that this
needs of the option sets is that laying one over another is associative and that the
open set changes nothing.

Hence two texts in a row settle what the second settles over what the first settles
(`layer_open_append`), the first piece that is refused decides the error
(`layer_eq_error_iff`), an option is as the last piece that settles it says
(`option_of_layer`), and neighbours that settle different options may change places
(`layer_exchange`).
-/

namespace IcuMessage

variable {α β ε σ : Type}

/-- What a piece settles, or the error for a piece that is refused. -/
def acceptBy (settles? : α → Option σ) (refusal : α → ε) (piece : α) : Except ε σ :=
  match settles? piece with
  | some settled => .ok settled
  | none => .error (refusal piece)

/-- What pieces settle, each of them over those before it, on top of a given set. -/
def layer (settle : α → Except ε σ) (overlay : σ → σ → σ) (settled : σ) (pieces : List α) :
    Except ε σ :=
  pieces.foldlM (fun settled piece => (settle piece).map (overlay settled)) settled

/-- Two pieces are accepted and may be laid over any set in either order. -/
def Exchangeable (settle : α → Except ε σ) (overlay : σ → σ → σ) (first second : α) : Prop :=
  ∃ one other, settle first = .ok one ∧ settle second = .ok other ∧
    ∀ lower, overlay (overlay lower one) other = overlay (overlay lower other) one

variable {settle : α → Except ε σ} {overlay : σ → σ → σ} {settled : σ} {pieces : List α}

theorem acceptBy_eq_ok_iff {settles? : α → Option σ} {refusal : α → ε} {piece : α} :
    acceptBy settles? refusal piece = .ok settled ↔ settles? piece = some settled := by
  rw [acceptBy]
  cases settles? piece <;> simp

theorem acceptBy_eq_error_iff {settles? : α → Option σ} {refusal : α → ε} {piece : α}
    {error : ε} :
    acceptBy settles? refusal piece = .error error ↔
      settles? piece = none ∧ error = refusal piece := by
  rw [acceptBy]
  cases settles? piece <;> simp [eq_comm]

theorem layer_nil : layer settle overlay settled [] = .ok settled := rfl

theorem layer_cons (piece : α) (rest : List α) :
    layer settle overlay settled (piece :: rest) =
      (settle piece >>= fun more => layer settle overlay (overlay settled more) rest) := by
  rw [layer, List.foldlM_cons]
  cases settle piece <;> rfl

/-- Pieces are laid one behind the other. -/
theorem layer_append (front back : List α) :
    layer settle overlay settled (front ++ back) =
      (layer settle overlay settled front >>= fun more => layer settle overlay more back) :=
  List.foldlM_append

/-- The set that pieces are laid on comes in at the end as well as at the beginning. -/
theorem layer_eq_map [Std.Associative overlay] (opened : σ)
    [Std.LawfulIdentity overlay opened] (settled : σ) (pieces : List α) :
    layer settle overlay settled pieces =
      (layer settle overlay opened pieces).map (overlay settled) := by
  induction pieces generalizing settled with
  | nil =>
      rw [layer_nil, layer_nil]
      exact congrArg Except.ok (Std.LawfulRightIdentity.right_id settled).symm
  | cons piece rest ih =>
      rw [layer_cons, layer_cons]
      rcases settle piece with error | more
      · rfl
      have alone : overlay opened more = more := Std.LawfulLeftIdentity.left_id more
      rw [ok_bind, ok_bind, alone, ih (overlay settled more), ih more]
      rcases layer settle overlay opened rest with error | last
      · rfl
      · exact congrArg Except.ok (Std.Associative.assoc settled more last)

theorem layer_open_append [Std.Associative overlay] {opened : σ}
    [Std.LawfulIdentity overlay opened] (front back : List α) :
    layer settle overlay opened (front ++ back) =
      (do
        let first ← layer settle overlay opened front
        let second ← layer settle overlay opened back
        .ok (overlay first second)) := by
  rw [layer_append]
  refine bind_congr_of_ok fun first _ => ?_
  rw [layer_eq_map opened]
  cases layer settle overlay opened back <;> rfl

/-- All pieces settle exactly if the result is what they settle, laid over each other. -/
theorem layer_eq_ok_iff {result : σ} :
    layer settle overlay settled pieces = .ok result ↔
      ∃ sets, List.Forall₂ (fun piece set => settle piece = .ok set) pieces sets ∧
        sets.foldl overlay settled = result := by
  induction pieces generalizing settled with
  | nil => simp [layer_nil]
  | cons piece rest ih =>
      simp only [layer_cons, bind_eq_ok_iff, ih, List.forall₂_cons_left_iff]
      constructor
      · rintro ⟨more, accepted, sets, later, rfl⟩
        exact ⟨more :: sets, ⟨more, sets, accepted, later, rfl⟩, rfl⟩
      · rintro ⟨_, ⟨more, sets, accepted, later, rfl⟩, rfl⟩
        exact ⟨more, accepted, sets, later, rfl⟩

/-- Pieces are accepted exactly if each of them is. -/
theorem exists_layer_eq_ok_iff :
    (∃ result, layer settle overlay settled pieces = .ok result) ↔
      ∀ piece ∈ pieces, ∃ more, settle piece = .ok more := by
  induction pieces generalizing settled with
  | nil => simp [layer_nil]
  | cons piece rest ih =>
      simp only [layer_cons, bind_eq_ok_iff, List.forall_mem_cons]
      constructor
      · rintro ⟨result, more, accepted, later⟩
        exact ⟨⟨more, accepted⟩, ih.mp ⟨result, later⟩⟩
      · rintro ⟨⟨more, accepted⟩, later⟩
        rcases ih.mpr later with
          ⟨result, read⟩
        exact ⟨result, more, accepted, read⟩

/-- The error is that of the first piece that is refused. -/
theorem layer_eq_error_iff {error : ε} :
    layer settle overlay settled pieces = .error error ↔
      ∃ before piece after, pieces = before ++ piece :: after ∧
        (∀ earlier ∈ before, ∃ more, settle earlier = .ok more) ∧
          settle piece = .error error := by
  constructor
  · intro refused
    induction pieces generalizing settled with
    | nil => cases refused
    | cons piece rest ih =>
        rw [layer_cons, bind_eq_error_iff] at refused
        rcases refused with here | ⟨more, accepted, later⟩
        · exact ⟨[], piece, rest, rfl, nofun, here⟩
        · rcases ih later with
            ⟨before, refusedPiece, after, rfl, earlier, refused⟩
          exact ⟨piece :: before, refusedPiece, after, rfl,
            List.forall_mem_cons.mpr ⟨⟨more, accepted⟩, earlier⟩, refused⟩
  · rintro ⟨before, piece, after, rfl, earlier, refused⟩
    rcases exists_layer_eq_ok_iff.mpr earlier with
      ⟨result, read⟩
    rw [layer_append, read, ok_bind, layer_cons, refused, error_bind]

/-- An option is as the last of the pieces that settle it says. -/
theorem option_of_layer {option : σ → Option β} {settles : α → Option β}
    (overlaid : ∀ lower upper, option (overlay lower upper) = (option upper).or (option lower))
    (each : ∀ piece more, settle piece = .ok more → option more = settles piece)
    {result : σ} (read : layer settle overlay settled pieces = .ok result) :
    option result = (pieces.reverse.findSome? settles).or (option settled) := by
  induction pieces generalizing settled with
  | nil =>
      cases read
      rfl
  | cons piece rest ih =>
      rw [layer_cons, bind_eq_ok_iff] at read
      rcases read with
        ⟨more, accepted, later⟩
      rw [ih later, overlaid, each piece more accepted, List.reverse_cons, List.findSome?_append,
        List.findSome?_singleton, Option.or_assoc]

/-- Neighbours that are exchangeable may change places among any pieces. -/
theorem layer_exchange {first second : α}
    (exchangeable : Exchangeable settle overlay first second) (before after : List α) :
    layer settle overlay settled (before ++ first :: second :: after) =
      layer settle overlay settled (before ++ second :: first :: after) := by
  rcases exchangeable with
    ⟨one, other, acceptsFirst, acceptsSecond, either⟩
  rw [layer_append, layer_append]
  refine bind_congr_of_ok fun lower _ => ?_
  simp only [layer_cons, acceptsFirst, acceptsSecond, ok_bind, either lower]

theorem Exchangeable.symm {first second : α}
    (exchangeable : Exchangeable settle overlay first second) :
    Exchangeable settle overlay second first := by
  rcases exchangeable with
    ⟨one, other, acceptsFirst, acceptsSecond, either⟩
  exact ⟨other, one, acceptsSecond, acceptsFirst, fun lower => (either lower).symm⟩

/-- Pieces of which any two are exchangeable may come in any order. -/
theorem layer_perm {others : List α} (rearranged : pieces.Perm others)
    (exchangeable : pieces.Pairwise (Exchangeable settle overlay)) :
    layer settle overlay settled pieces = layer settle overlay settled others := by
  induction rearranged generalizing settled with
  | nil => rfl
  | cons piece _ ih =>
      rw [layer_cons, layer_cons]
      exact bind_congr_of_ok fun more _ => ih (List.pairwise_cons.mp exchangeable).2
  | swap first second rest =>
      have apart := (List.pairwise_cons.mp exchangeable).1 first List.mem_cons_self
      exact layer_exchange apart [] rest
  | trans rearranged _ ihFront ihBack =>
      rw [ihFront exchangeable]
      exact ihBack (rearranged.pairwise exchangeable Exchangeable.symm)

end IcuMessage
