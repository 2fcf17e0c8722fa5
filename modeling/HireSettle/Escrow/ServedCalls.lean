import HireSettle.Escrow.Database
import HireSettle.Workflow.Turns

/-! The calls of an operation that is served alone: until it writes, each of them
finds the same database. -/
namespace HireSettle.Escrow
open Workflow

variable {α β : Type} {admits : List EscrowEvent → EscrowEvent → Prop} {inv : EscrowSnapshot → Prop}
variable {done : Except Exception β → EscrowSnapshot → Prop} {c : EscrowSnapshot} {db : Db} {k : α → Op β}

theorem ensuresFind {model : Model} {f : Db → α} (weak : ∀ c', c'.world = db → inv c')
    (fails : ∀ error c', c'.world = db → done (.error error) c') (here : c.world = db)
    (rest : ∀ c', c'.world = db → Ensures admits inv done (k (f db)) c') : Ensures admits inv done (find model f >>= k) c := by
  subst here
  refine ensuresAsk weak (fun i value c' found same => ?_) fails
  split at found
  · contradiction
  · cases found
    exact rest c' same

theorem ensuresFindOr {model : Model} {f : Db → Except Exception α} (weak : ∀ c', c'.world = db → inv c')
    (fails : ∀ error c', c'.world = db → done (.error error) c') (here : c.world = db)
    (rest : ∀ value c', f db = .ok value → c'.world = db → Ensures admits inv done (k value) c') :
    Ensures admits inv done (findOr model f >>= k) c := by
  subst here
  refine ensuresAsk weak (fun i value c' found same => ?_) fails
  split at found
  · contradiction
  · exact rest value c' found same

theorem ensuresStellar {site : Site} {f : Answer → α} (weak : ∀ c', c'.world = db → inv c')
    (fails : ∀ error c', c'.world = db → done (.error error) c') (here : c.world = db)
    (rest : ∀ i c', c'.world = db → Ensures admits inv done (k (f i)) c') : Ensures admits inv done (stellar site f >>= k) c := by
  subst here
  refine ensuresAsk weak (fun i value c' found same => ?_) fails
  split at found
  · contradiction
  · cases found
    exact rest i c' same

theorem ensuresNow {k : Nat → Op β} (weak : ∀ c', c'.world = db → inv c')
    (fails : ∀ error c', c'.world = db → done (.error error) c') (here : c.world = db)
    (rest : ∀ c', c'.world = db → Ensures admits inv done (k db.clock) c') : Ensures admits inv done (now >>= k) c := by
  subst here
  refine ensuresAsk weak (fun i value c' found same => ?_) fails
  cases found
  exact rest c' same

theorem ensuresWrite {site : Site} {f : Answer → Db → Except Exception (α × Db)} {done : Except Exception α → EscrowSnapshot → Prop}
    (weak : ∀ c', c'.world = db → inv c') (fails : ∀ error c', c'.world = db → done (.error error) c') (here : c.world = db)
    (commits : ∀ thread i value db', i.fails = false → f i db = .ok (value,db') → admits c.history ⟨thread,site,i,db,db'⟩ →
      inv (c.record thread site i db') ∧ done (.ok value) (c.record thread site i db')) : Ensures admits inv done (write site f) c := by
  subst here
  refine ensuresTransact (fun thread i value db' ok admitted => ?_) fun thread i error _ => ⟨weak _ rfl,fails error _ rfl⟩
  split at ok
  · contradiction
  · rename_i answered
    exact commits thread i value db' (by simpa using answered) ok admitted

section Interpretation

variable {respond : Site → Answer} {k : α → Op β}

theorem interpretFind {model : Model} {f : Db → α} : (find model f >>= k).interpret respond db =
    if (respond (.find model)).fails then (.error .database,db) else (k (f db)).interpret respond db := by
  rw [interpretBind,find,interpretQuery]
  cases (respond (.find model)).fails <;> rfl

theorem interpretFindOr {model : Model} {f : Db → Except Exception α} : (findOr model f >>= k).interpret respond db =
    if (respond (.find model)).fails then (.error .database,db) else
      match f db with
      | .ok value => (k value).interpret respond db
      | .error error => (.error error,db) := by
  rw [interpretBind,findOr,interpretQuery]
  cases (respond (.find model)).fails with
  | true => rfl
  | false => cases f db <;> rfl

theorem interpretStellar {site : Site} {f : Answer → α} : (stellar site f >>= k).interpret respond db =
    if (respond site).fails then (.error .stellar,db) else (k (f (respond site))).interpret respond db := by
  rw [interpretBind,stellar,interpretQuery]
  cases (respond site).fails <;> rfl

theorem interpretWrite {site : Site} {f : Answer → Db → Except Exception (α × Db)} :
    (write site f >>= k).interpret respond db =
      if (respond site).fails then (.error .database,db) else
        match f (respond site) db with
        | .ok (value,db') => (k value).interpret respond db'
        | .error error => (.error error,db) := by
  rw [interpretBind,write,interpretTransact]
  cases answered : (respond site).fails with
  | true => simp [Process.applied,answered,Except.map]
  | false => cases committed : f (respond site) db <;> simp [Process.applied,answered,committed,Except.map]

theorem interpretNow {k : Nat → Op β} : (now >>= k).interpret respond db = (k db.clock).interpret respond db := rfl

end Interpretation

end HireSettle.Escrow
