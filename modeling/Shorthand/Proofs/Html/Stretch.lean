import Shorthand.Proofs.Html.Tabstops

/-! # Stretches of output

Pieces come out as texts, tabstops with their numbers, and runs of white space at the breaks. Of
what has been written before them the stretches show only whether it is anything, as a break at
the very start is left out. The tabstop writer has no part in them.
-/

namespace Shorthand.Html

variable {p : Profile} {field : Field} {l : Layout} {started : Bool} {k : Nat} {q : Piece}
  {ps : List Piece} {ns : List Node}

inductive Stretch where
  | text (s : String)
  /-- The text of a tabstop by its number. -/
  | tabstop (index : Nat)
  /-- At most one line break, then copies of the indentation. -/
  | run (newline : Bool) (copies : Nat)
  deriving DecidableEq, Repr

namespace Stretch

def isRun : Stretch → Bool
  | .run .. => true
  | _ => false

def output (p : Profile) (field : Field) : Stretch → String
  | .text s => s
  | .tabstop index => field index none
  | .run newline copies =>
    (if newline then "\n" else "") ++ String.join (List.replicate copies p.indent)

def joined (p : Profile) (field : Field) (stretches : List Stretch) : String :=
  String.join (stretches.map (output p field))

end Stretch

namespace Piece

def isBreak : Piece → Bool
  | .breakBefore _ | .breakAfter _ => true
  | _ => false

/-- What a piece becomes after `k` tabstops, where output has started or not. -/
def stretch (started : Bool) (k : Nat) : Piece → Stretch
  | .text s => .text s
  | .tabstop => .tabstop (k + 1)
  | .breakBefore level => .run started level
  | .breakAfter level => .run true level

/-- Whether the piece writes something even where nothing was written before. A tabstop may be
empty. -/
def starts (p : Profile) : Piece → Bool
  | .text s => !s.isEmpty
  | .tabstop => false
  | .breakBefore level => !(p.indentation level).isEmpty
  | .breakAfter _ => true

def tabstops : Piece → Nat
  | .tabstop => 1
  | _ => 0

def stretches (p : Profile) : Bool → Nat → List Piece → List Stretch
  | _, _, [] => []
  | started, k, q :: ps =>
    q.stretch started k :: stretches p (started || q.starts p) (k + q.tabstops) ps

theorem isRun_stretch : (q.stretch started k).isRun = q.isBreak := by
  cases q <;> rfl

theorem stretch_of_not_isBreak (hq : q.isBreak = false) (started started' : Bool) (k : Nat) :
    q.stretch started k = q.stretch started' k := by
  cases q with
  | breakBefore level => cases hq
  | _ => rfl

theorem tabstops_of_isBreak (hq : q.isBreak = true) : q.tabstops = 0 := by
  cases q with
  | tabstop => cases hq
  | _ => rfl

end Piece

open Piece

namespace Written

theorem add_eq_stretch {w : Written} (hw : w.out.isEmpty = !started) :
    w.add p field q = {
      out := w.out ++ (q.stretch started w.tabstops).output p field
      tabstops := w.tabstops + q.tabstops } := by
  cases q with
  | text s => rfl
  | tabstop => rfl
  | breakBefore level =>
    cases started <;>
      simp [add, stretch, Stretch.output, Piece.tabstops, hw, Profile.indentation,
        String.append_assoc]
  | breakAfter level =>
    simp [add, stretch, Stretch.output, Piece.tabstops, Profile.indentation, String.append_assoc]

theorem isEmpty_add {w : Written} (hw : w.out.isEmpty = !started)
    (hq : q = .tabstop → started = true) :
    (w.add p field q).out.isEmpty = !(started || q.starts p) := by
  cases q with
  | text s => simp [add, starts, isEmpty_append, hw]
  | tabstop => simp [add, starts, isEmpty_append, hw, hq rfl]
  | breakBefore level => cases started <;> simp [add, starts, isEmpty_append, hw]
  | breakAfter level => simp [add, starts, isEmpty_append]

end Written

def WritesStretches (p : Profile) (field : Field) (started : Bool) (ps : List Piece) : Prop :=
  ∀ w : Written, w.out.isEmpty = !started →
    (ps.foldl (Written.add p field) w).out =
      w.out ++ Stretch.joined p field (stretches p started w.tabstops ps)

theorem WritesStretches.cons (hq : q = .tabstop → started = true)
    (h : WritesStretches p field (started || q.starts p) ps) :
    WritesStretches p field started (q :: ps) := by
  intro w hw
  rw [List.foldl_cons, h _ (Written.isEmpty_add hw hq), Written.add_eq_stretch hw]
  simp [stretches, Stretch.joined, String.append_assoc]

/-- Tabstops stand between tags, so none of them decides whether output has started. -/
theorem Layout.Lays.writesStretches (h : l.Lays ps ns) (p : Profile) (field : Field)
    (started : Bool) : WritesStretches p field started ps := by
  induction h generalizing started with
  | nil =>
    intro w _
    simp [stretches, Stretch.joined]
  | plain hq _ ih => exact .cons (fun h => absurd h hq) (ih _)
  | stop n hn _ ih =>
    have hangle : starts p (.text ">") = true := rfl
    refine .cons nofun (.cons nofun (.cons (fun _ => ?_) (.cons nofun (ih _))))
    rw [hangle, Bool.or_true]

end Shorthand.Html
