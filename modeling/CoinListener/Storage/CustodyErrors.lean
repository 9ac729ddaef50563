import CoinListener.Foundation.OneTransaction
import CoinListener.Storage.CustodyPool

/-! What an assignment that fails leaves behind. -/
namespace CoinListener.Storage
open Foundation Transaction

variable {W : Type} [DecidableEq W] {lower to_lowercase : String → String} {s t : CustodyWorld W}
  {w : W} {tenant_id : Uuid}

/-! ### The errors of a call -/

/-- Errors that may come after the commit. -/
def LateError (e : AppError) : Prop :=
  (∃ message, e = .Database message) ∨ e = .NotFound "custody account" ∨
    e = .NotFound "custody assignment"

/-- The statements after the commit. -/
def CustodyStatement.ReadsBack : CustodyStatement → Prop
  | .list_custody_accounts .. => True
  | .list_custody_account_configs .. => True
  | .list_custody_assignments .. => True
  | _ => False

/-- The lists themselves never fail. -/
theorem reads_back_answered {statement : CustodyStatement} (h : statement.ReadsBack)
    (skipped : CustodyKey → Bool) (now : Timestamp) (next_id : Uuid) (tables : CustodyTables)
    (e : AppError)
    (herror : ((custody_schema lower).effect skipped now next_id tables statement).answer = .error e) :
    LateError e := by
  cases statement with
  | list_custody_accounts => exact nomatch herror
  | list_custody_account_configs => exact nomatch herror
  | list_custody_assignments => exact nomatch herror
  | _ => exact h.elim

theorem required_error {α : Type} {value : Option α} {error e : AppError}
    (h : required value error = .error e) : e = error := by
  cases value with
  | some a => exact nomatch h
  | none => exact (Except.error.inj h).symm

abbrev ReadingBack {α : Type} (p : CustodyCall α) : Prop :=
  Reading LateError CustodyStatement.ReadsBack p

namespace CustodyCall

theorem configs_for_accounts_reading {account_ids : List Uuid} :
    ReadingBack (configs_for_accounts tenant_id account_ids) := by
  unfold configs_for_accounts
  split
  · exact .done
  · exact .perform trivial

theorem read_assignment_reading {business_ref : String} {assigned : AssignedCustody} :
    ReadingBack (read_assignment tenant_id business_ref assigned) := by
  refine .bind ?_ fun accounts => .bind (.lift fun e he => ?_) fun account => ?_
  · refine .bind (.lift nofun) fun source => .bind (.lift nofun) fun status => ?_
    exact .bind (.perform trivial) fun rows => .bind configs_for_accounts_reading fun _ => .done
  · exact .inr (.inl (required_error he))
  refine .bind ?_ fun assignments => .bind (.lift fun e he => ?_) fun assignment => .done
  · exact .bind (.lift nofun) fun status => .perform trivial
  · exact .inr (.inr (required_error he))

/-- An assignment is one transaction, and what it inserts is read back. -/
theorem assign_transaction {request : AssignCustodyAccountRequest} :
    OneTransaction LateError CustodyStatement.ReadsBack
      ((assign_custody_account to_lowercase tenant_id request).bind fun _ => .done ()) := by
  have hread : ∀ assigned, ReadingBack
      (read_assignment tenant_id (Text.trim request.business_ref) assigned) :=
    fun _ => read_assignment_reading
  refine .map (fun _ => ()) ?_
  refine .check fun source _ => .check fun applicant_type _ => .check fun _ _ => ?_
  exact OneTransaction.transaction assignment_asks hread

end CustodyCall

/-! ### Runs of one call among those of others -/

abbrev CustodyCallStep (lower to_lowercase : String → String) (w : W) :
    CustodyWorld W × (W → CustodyCall Unit) → CustodyWorld W × (W → CustodyCall Unit) → Prop :=
  CallStep (custody_schema lower) AppError.Database CustodyEdit (CustodyRequest to_lowercase) w

/-- A step after which the tables are as they were, unless it is one of another client. -/
abbrev CustodyHarmless (lower to_lowercase : String → String) (w : W) :
    CustodyWorld W × (W → CustodyCall Unit) → CustodyWorld W × (W → CustodyCall Unit) → Prop :=
  HarmlessStep (custody_schema lower) AppError.Database CustodyEdit (CustodyRequest to_lowercase) w

/-- An assignment returns an error. Either none of its steps has changed a table and nothing is left
to be committed, or it was committed as a whole, nothing else of it changed a table, and the error is
a late one. -/
theorem failed_assignment_changes_nothing {ps qs : W → CustodyCall Unit}
    {request : AssignCustodyAccountRequest} {e : AppError}
    (hcall : ps w = (CustodyCall.assign_custody_account to_lowercase tenant_id request).bind
      fun _ => .done ())
    (hrun : Relation.ReflTransGen (CustodyCallStep lower to_lowercase w) (s.abandon w, ps) (t, qs))
    (hend : qs w = .fail e) :
    (Relation.ReflTransGen (CustodyHarmless lower to_lowercase w) (s.abandon w, ps) (t, qs) ∧
        t.log w = []) ∨
      LateError e ∧ ∃ a b,
        Relation.ReflTransGen (CustodyHarmless lower to_lowercase w) (s.abandon w, ps) a ∧
        CommitStep (custody_schema lower) w a b ∧
        Relation.ReflTransGen (CustodyHarmless lower to_lowercase w) b (t, qs) := by
  have hstart : OneTransaction LateError CustodyStatement.ReadsBack (ps w) := by
    rw [hcall]
    exact CustodyCall.assign_transaction
  refine OneTransaction.run (fun message => .inl ⟨message, rfl⟩) (fun q hq => ?_) hstart
    (Function.update_self ..) hrun hend
  exact reads_back_answered hq

/-- The pool is empty. -/
theorem failed_assignment_changes_nothing_empty : ∃ t qs,
    qs () = .fail (.Validation "no available custody account") ∧
    Relation.ReflTransGen (CustodyHarmless id id ())
      ((quiet_world bitcoin_tables 10).abandon (), fun _ => assign_pool_account "r") (t, qs) ∧
    t.log () = [] := by
  have hcall : ∃ qs, Relation.ReflTransGen (CustodyCallStep id id ())
      ((quiet_world bitcoin_tables 10).abandon (), fun _ => assign_pool_account "r")
      ((alone_eval id () (assign_pool_account "r") ((quiet_world bitcoin_tables 10).abandon ())).2, qs) ∧
        qs () = Prog.lift
          (alone_eval id () (assign_pool_account "r") ((quiet_world bitcoin_tables 10).abandon ())).1 :=
    Prog.Crew.of_eval (fun _ _ => Carried.alone) _ (by decide +kernel) _ rfl
  obtain ⟨qs, hrun, hend⟩ := hcall
  have herror : (alone_eval id () (assign_pool_account "r")
      ((quiet_world bitcoin_tables 10).abandon ())).1 =
        .error (.Validation "no available custody account") := by decide +kernel
  rw [herror, Prog.lift_error] at hend
  rcases @failed_assignment_changes_nothing Unit _ id id _ _ () 7 (fun _ => assign_pool_account "r")
    qs (pool_assignment_request "r") _ rfl hrun hend with ⟨hharmless, hlog⟩ | ⟨hlate, _⟩
  · exact ⟨_, qs, hend, hharmless, hlog⟩
  · rcases hlate with ⟨message, hlate⟩ | hlate | hlate
    · exact nomatch hlate
    · exact nomatch hlate
    · exact nomatch hlate

/-! ### A read that fails -/

/-- Everything is answered but the list of the accounts. -/
def accounts_unread (s : CustodyWorld Unit) :
    (op : Op CustodyStatement) → AppResult (op.Answer CustodyStatement.Answer) × CustodyWorld Unit
  | .ask (.list_custody_accounts ..) => (.error (.Database "connection reset"), s)
  | op => s.alone (custody_schema id) () op

theorem accounts_unread_carried (s : CustodyWorld Unit) (op : Op CustodyStatement) :
    Carried (custody_schema id) AppError.Database () s op (accounts_unread s op).1
      (accounts_unread s op).2 := by
  cases op with
  | begin => exact .alone (World.unblocked_unit s .begin)
  | commit => exact .alone (World.unblocked_unit s .commit)
  | rollback => exact .alone (World.unblocked_unit s .rollback)
  | ask statement =>
    cases statement with
    | list_custody_accounts => exact .refused "connection reset"
    | _ => exact .alone (World.unblocked_unit s (.ask _))

/-- Where there is no other client, harmless steps bring no assignment. -/
theorem harmless_alone {c d : CustodyWorld Unit × (Unit → CustodyCall Unit)}
    (hc : c.1.tables.custody_account_assignments = [])
    (hrun : Relation.ReflTransGen (CustodyHarmless id id ()) c d) :
    d.1.tables.custody_account_assignments = [] := by
  induction hrun with
  | refl => exact hc
  | tail _ hstep ih =>
    cases hstep with
    | launch v hl => exact absurd rfl hl.1
    | statement v hp hs => exact (hs.2 rfl) ▸ ih
    | others he =>
      obtain ⟨tables, hedit, rfl⟩ := he
      have hperm := hedit.assignments
      rw [ih] at hperm
      exact List.map_eq_nil_iff.mp hperm.eq_nil

/-- One available account in the pool. -/
def pool_of_one : CustodyWorld Unit :=
  alone_calls (quiet_world bitcoin_tables 10) [create_pool_account "1" none]

/-- The assignment is committed and then the accounts cannot be read: the call fails, and no run
without its effect ends there. -/
theorem failed_read_leaves_assignment :
    CustodyStart (quiet_world bitcoin_tables 10) no_client ∧
    (∃ qs, Relation.ReflTransGen (CustodyStep id id) (quiet_world bitcoin_tables 10, no_client)
      (pool_of_one, qs)) ∧
    ∃ t qs, Relation.ReflTransGen (CustodyCallStep id id ())
        (pool_of_one.abandon (), fun _ => assign_pool_account "r") (t, qs) ∧
      qs () = .fail (.Database "connection reset") ∧
      ¬ Relation.ReflTransGen (CustodyHarmless id id ())
        (pool_of_one.abandon (), fun _ => assign_pool_account "r") (t, qs) := by
  have hcreated : ∀ p ∈ [create_pool_account "1" none], CustodyRequest id p := by
    intro p hp
    obtain rfl := List.mem_singleton.mp hp
    exact .create 7 _
  have hstep : ∀ s op, (fun _ _ => true : CustodyWorld Unit → Op CustodyStatement → Bool) s op = true →
      Carried (custody_schema id) AppError.Database () s op (accounts_unread s op).1
        (accounts_unread s op).2 :=
    fun s op _ => accounts_unread_carried s op
  have hcall : ∃ qs, Relation.ReflTransGen (CustodyCallStep id id ())
      (pool_of_one.abandon (), fun _ => assign_pool_account "r")
      ((Prog.eval accounts_unread (assign_pool_account "r") (pool_of_one.abandon ())).2, qs) ∧
        qs () = Prog.lift
          (Prog.eval accounts_unread (assign_pool_account "r") (pool_of_one.abandon ())).1 :=
    Prog.Crew.of_eval hstep (pool_of_one.abandon ()) (Prog.along_true ..) _ rfl
  obtain ⟨qs, hrun, hend⟩ := hcall
  have herror : (Prog.eval accounts_unread (assign_pool_account "r") (pool_of_one.abandon ())).1 =
      .error (.Database "connection reset") := by decide +kernel
  refine ⟨bitcoin_start, alone_calls_run hcreated _ _ (by decide +kernel), _, qs, hrun, ?_, ?_⟩
  · rw [hend, herror]
    rfl
  · intro hharmless
    have hnone := harmless_alone (by decide +kernel) hharmless
    have hassigned : (Prog.eval accounts_unread (assign_pool_account "r")
        (pool_of_one.abandon ())).2.tables.custody_account_assignments ≠ [] := by decide +kernel
    exact hassigned hnone

end CoinListener.Storage
