import CoinListener.Foundation.Crew
import CoinListener.Foundation.Numeral
import CoinListener.Worker.BalanceHistory

/-! The block that a stored balance is said to be of, and the one it is of, while the chain grows. -/
namespace CoinListener.Worker
open Foundation Storage Providers

/-! ### The system -/

/-- What a scan has read: of which address, and how high the chain was when the block number and when
the balance was asked for. -/
structure BalanceReads where
  address : String
  numbered : Option Nat
  read : Option Nat
deriving DecidableEq

/-- The database, the height of the chain, and history: what the scan at work has read, and what has
been stored with what had been read. -/
structure BalanceWorld where
  db : Db
  height : Nat
  reads : BalanceReads
  snapshots : List (BalanceReads × BalanceSnapshot)
  changes : List (BalanceReads × AddressEvent)

def stored_snapshots (db : Db) : Query → List BalanceSnapshot
  | .insert_balance_snapshot request => [(db.insert_balance_snapshot request).1]
  | _ => []

def stored_changes (db : Db) : Query → List AddressEvent
  | .insert_event_and_outbox_if_not_exists draft =>
    (db.insert_event_and_outbox_if_not_exists draft).1.toList.filter
      (·.event_type == "balance_change")
  | _ => []

def BalanceWorld.query (s : BalanceWorld) (q : Query) : AppResult q.Answer × BalanceWorld :=
  ((q.run s.db).1,
    { s with
      db := (q.run s.db).2
      snapshots := s.snapshots ++ (stored_snapshots s.db q).map (s.reads, ·)
      changes := s.changes ++ (stored_changes s.db q).map (s.reads, ·) })

/-- What may become of a statement, where an address has these balances after each block. The node
answers for the chain as it is. -/
inductive BalanceCarried (balances : String → Nat → Nat) (s : BalanceWorld) :
    (op : Statement) → AppResult op.Answer → BalanceWorld → Prop where
  | db {q r t} (h : Fate AppError.Database s (s.query q) r t) : BalanceCarried balances s (.db q) r t
  | block_number {value} (h : Evm.parse_hex_quantity_to_i64 value = .ok (s.height : Int)) :
      BalanceCarried balances s (.remote .eth_block_number) (.ok value)
        { s with reads := { s.reads with numbered := some s.height } }
  | balance {address hex}
      (h : Evm.parse_hex_u256_to_decimal_string hex = .ok (toString (balances address s.height))) :
      BalanceCarried balances s (.remote (.eth_get_balance address)) (.ok hex)
        { s with reads := { s.reads with read := some s.height } }
  | logs {filter} (logs : List Evm.EvmLog) :
      BalanceCarried balances s (.remote (.eth_get_logs filter)) (.ok logs) s
  | failed {call} (error : AppError) : BalanceCarried balances s (.remote call) (.error error) s

/-- The chain grows, and others write to the database. -/
inductive BalanceOthers : BalanceWorld → BalanceWorld → Prop where
  | grow {s height} (h : s.height ≤ height) : BalanceOthers s { s with height := height }
  | db {s} (db : Db) : BalanceOthers s { s with db := db }

/-- A scan with a provider, whose node is as high as it is. -/
inductive BalanceLaunch (s : BalanceWorld) : Scan (List AddressEvent) → BalanceWorld → Prop where
  | scan (context : ScanAddressContext) (provider : Provider) (height : Nat) :
      BalanceLaunch s (scan_evm_address_with_provider context provider)
        { s with
          height := height
          reads := ⟨context.address, none, none⟩ }

abbrev BalanceStep (balances : String → Nat → Nat) :
    BalanceWorld × Scan (List AddressEvent) → BalanceWorld × Scan (List AddressEvent) → Prop :=
  Prog.Turn (BalanceCarried balances) BalanceOthers BalanceLaunch

/-- No scan yet. -/
def balance_start (db : Db) : BalanceWorld × Scan (List AddressEvent) :=
  (⟨db, 0, ⟨"", none, none⟩, [], []⟩, .done [])

/-- The amount is the balance of the address after the block. -/
def BalanceAt (balances : String → Nat → Nat) (address : String) (block_number : Option Int)
    (amount : Option String) : Prop :=
  ∃ n : Nat, block_number = some (n : Int) ∧ amount = some (toString (balances address n))

/-- The amount was read when the chain was at least as high as the block, and is the balance after the
block exactly if it was the same at both heights. -/
structure ReadLater (balances : String → Nat → Nat) (reads : BalanceReads)
    (block_number : Option Int) (amount : Option String) : Prop where
  reached : ∃ n m : Nat, reads.numbered = some n ∧ reads.read = some m ∧ n ≤ m ∧
    block_number = some (n : Int) ∧ amount = some (toString (balances reads.address m))
  true_pair : BalanceAt balances reads.address block_number amount ↔
    reads.numbered.map (balances reads.address) = reads.read.map (balances reads.address)

theorem decimal_inj {a b : Nat} (h : toString a = toString b) : a = b := by
  have hdigits : Nat.toDigits 10 a = Nat.toDigits 10 b := String.ofList_inj.mp h
  rw [← @Numeral.value_toDigits a, hdigits, Numeral.value_toDigits]

theorem ReadLater.of_reached {balances : String → Nat → Nat} {reads : BalanceReads}
    {block_number : Option Int} {amount : Option String}
    (h : ∃ n m : Nat, reads.numbered = some n ∧ reads.read = some m ∧ n ≤ m ∧
      block_number = some (n : Int) ∧ amount = some (toString (balances reads.address m))) :
    ReadLater balances reads block_number amount := by
  refine ⟨h, ?_⟩
  obtain ⟨n, m, hnumbered, hread, _, rfl, rfl⟩ := h
  rw [hnumbered, hread, Option.map_some, Option.map_some, Option.some.injEq]
  constructor
  · rintro ⟨k, hblock, hamount⟩
    obtain rfl := Int.ofNat_inj.mp (Option.some.inj hblock)
    exact (decimal_inj (Option.some.inj hamount)).symm
  · intro hsame
    exact ⟨n, rfl, by rw [hsame]⟩

/-! ### The scan -/

/-- Statements that neither read a balance nor store one. -/
def Silent : Statement → Prop
  | .db (.insert_balance_snapshot _) => False
  | .db (.insert_event_and_outbox_if_not_exists draft) => draft.event_type ≠ "balance_change"
  | .remote .eth_block_number => False
  | .remote (.eth_get_balance _) => False
  | _ => True

section Silent
open Prog
variable {context : ScanAddressContext}

theorem erc20_asset_silent (watched_topic : String) (range : BlockRange) (asset : Asset) :
    (scan_erc20_asset context watched_topic range asset).Only Silent := by
  unfold scan_erc20_asset
  split
  · exact Only.done
  · refine Only.forEach fun filter _ => ?_
    refine Only.bind (Only.bind Only.lift fun _ => Only.perform trivial) fun logs => ?_
    refine Only.forEach fun log _ => Only.bind Only.lift fun transfer => ?_
    refine Only.bind (Only.perform ?_) fun _ => Only.done
    have htype : "transfer" ≠ "balance_change" := by decide
    exact htype

theorem erc20_transfers_silent (latest_block default_confirmations : Int)
    (selected_assets : List Asset) :
    (scan_evm_erc20_transfers context latest_block default_confirmations selected_assets).Only
      Silent := by
  refine Only.bind (Only.perform trivial) fun cursor => ?_
  refine Only.bind Only.lift fun range => ?_
  cases range with
  | none => exact Only.done
  | some range =>
    dsimp only
    split
    · exact Only.done
    · refine Only.bind Only.lift fun topic => Only.bind Only.lift fun ranges => ?_
      refine Only.forEach fun range _ => ?_
      refine Only.bind (Only.forEach fun asset _ => erc20_asset_silent topic range asset) fun _ => ?_
      exact Only.bind (Only.perform trivial) fun _ => Only.done

end Silent

/-! ### Runs -/

/-- What a scan knows of what it has read. -/
inductive BalancePhase where
  | scanning (address : String)
  | numbered (address : String) (block_number : Int)
  | read (address : String) (block_number : Int) (balance_raw : String)

section Run
open Prog
variable {balances : String → Nat → Nat} {s t : BalanceWorld} {context : ScanAddressContext}
  {i : BalancePhase}

def balance_known (balances : String → Nat → Nat) : BalancePhase → BalanceWorld → Prop
  | .scanning address, s => s.reads.address = address
  | .numbered address block_number, s => s.reads.address = address ∧
    ∃ n : Nat, s.reads.numbered = some n ∧ n ≤ s.height ∧ block_number = (n : Int)
  | .read address block_number balance_raw, s => s.reads.address = address ∧
    ReadLater balances s.reads (some block_number) (some balance_raw)

/-- Everything stored so far was read as it is said. -/
structure BalancesRead (balances : String → Nat → Nat) (s : BalanceWorld) : Prop where
  snapshots : ∀ entry ∈ s.snapshots,
    ReadLater balances entry.1 entry.2.block_number (some entry.2.balance_raw)
  changes : ∀ entry ∈ s.changes,
    ReadLater balances entry.1 entry.2.block_number entry.2.balance_after_raw

/-- What others leave alone. -/
structure SameReads (s t : BalanceWorld) : Prop where
  height : s.height ≤ t.height
  reads : t.reads = s.reads
  snapshots : t.snapshots = s.snapshots
  changes : t.changes = s.changes

theorem SameReads.refl (s : BalanceWorld) : SameReads s s :=
  ⟨le_rfl, rfl, rfl, rfl⟩

theorem SameReads.trans {u : BalanceWorld} (hst : SameReads s t) (htu : SameReads t u) :
    SameReads s u :=
  ⟨hst.height.trans htu.height, htu.reads.trans hst.reads, htu.snapshots.trans hst.snapshots,
    htu.changes.trans hst.changes⟩

theorem SameReads.others (h : BalanceOthers s t) : SameReads s t := by
  cases h with
  | grow h => exact ⟨h, rfl, rfl, rfl⟩
  | db db => exact ⟨le_rfl, rfl, rfl, rfl⟩

theorem SameReads.known (h : SameReads s t) (hs : balance_known balances i s) :
    balance_known balances i t := by
  cases i with
  | scanning address => exact (congrArg BalanceReads.address h.reads).trans hs
  | numbered address block_number =>
    obtain ⟨haddress, n, hnumbered, hle, hblock⟩ := hs
    refine ⟨(congrArg BalanceReads.address h.reads).trans haddress, n, ?_, hle.trans h.height, hblock⟩
    rw [h.reads]
    exact hnumbered
  | read address block_number balance_raw =>
    refine ⟨(congrArg BalanceReads.address h.reads).trans hs.1, ?_⟩
    rw [h.reads]
    exact hs.2

theorem SameReads.stored (h : SameReads s t) (hs : BalancesRead balances s) :
    BalancesRead balances t := by
  constructor
  · rw [h.snapshots]
    exact hs.snapshots
  · rw [h.changes]
    exact hs.changes

def balance_assn (balances : String → Nat → Nat) (i : BalancePhase) :
    Assn SameReads (BalancesRead balances) where
  holds s := BalancesRead balances s ∧ balance_known balances i s
  stable hs h := ⟨h.stored hs.1, h.known hs.2⟩
  good hs := hs.1

/-- What a statement may rest on. -/
def balance_permitted (balances : String → Nat → Nat) (s : BalanceWorld) : Statement → Prop
  | .db (.insert_balance_snapshot request) =>
    ReadLater balances s.reads request.block_number (some request.balance_raw)
  | .db (.insert_event_and_outbox_if_not_exists draft) => draft.event_type = "balance_change" →
    ReadLater balances s.reads draft.block_number draft.balance_after_raw
  | _ => True

theorem BalancesRead.query (hs : BalancesRead balances s) {q : Query}
    (hq : balance_permitted balances s (.db q)) : BalancesRead balances (s.query q).2 := by
  constructor
  · intro entry hentry
    rcases List.mem_append.mp hentry with hold | hnew
    · exact hs.snapshots entry hold
    · obtain ⟨snapshot, hsnapshot, rfl⟩ := List.mem_map.mp hnew
      cases q with
      | insert_balance_snapshot request =>
        rw [List.mem_singleton.mp hsnapshot]
        exact hq
      | _ => exact absurd hsnapshot List.not_mem_nil
  · intro entry hentry
    rcases List.mem_append.mp hentry with hold | hnew
    · exact hs.changes entry hold
    · obtain ⟨event, hevent, rfl⟩ := List.mem_map.mp hnew
      cases q with
      | insert_event_and_outbox_if_not_exists draft =>
        obtain ⟨hevent, htype⟩ := List.mem_filter.mp hevent
        have hnew := Option.mem_toList.mp hevent
        have hadded : (s.db.events.insert_event_and_outbox_if_not_exists draft).1 = some event := hnew
        rcases s.db.events.insert_cases draft with ⟨_, hknown⟩ | ⟨_, hstored, _⟩
        · rw [hknown] at hadded
          exact nomatch hadded
        · rw [hstored] at hadded
          obtain rfl := Option.some.inj hadded
          exact hq (beq_iff_eq.mp htype)
      | _ => exact absurd hevent List.not_mem_nil

theorem BalancesRead.carried (hs : BalancesRead balances s) {op : Statement}
    {r : AppResult op.Answer} (hop : balance_permitted balances s op)
    (h : BalanceCarried balances s op r t) : BalancesRead balances t := by
  cases h with
  | db hfate =>
    rcases hfate.state with rfl | rfl
    · exact hs
    · exact hs.query hop
  | block_number => exact ⟨hs.snapshots, hs.changes⟩
  | balance => exact ⟨hs.snapshots, hs.changes⟩
  | logs => exact hs
  | failed => exact hs

/-- A database statement leaves what has been read. -/
theorem known_of_db {q : Query} {r : AppResult q.Answer}
    (h : BalanceCarried balances s (.db q) r t) (hs : balance_known balances i s) :
    balance_known balances i t := by
  cases h with
  | db hfate =>
    rcases hfate.state with rfl | rfl
    · exact hs
    · cases i with
      | scanning address => exact hs
      | numbered address block_number => exact hs
      | read address block_number balance_raw => exact hs

theorem known_of_silent {op : Statement} {r : AppResult op.Answer} (hop : Silent op)
    (h : BalanceCarried balances s op r t) (hs : balance_known balances i s) :
    balance_known balances i t := by
  cases h with
  | db hfate => exact known_of_db (.db hfate) hs
  | block_number => exact hop.elim
  | balance => exact hop.elim
  | logs => exact hs
  | failed => exact hs

theorem silent_balance_permitted {op : Statement} (hop : Silent op) :
    balance_permitted balances s op := by
  cases op with
  | remote c => trivial
  | db q =>
    cases q with
    | insert_balance_snapshot => exact hop.elim
    | insert_event_and_outbox_if_not_exists draft => exact fun htype => absurd htype hop
    | _ => trivial

/-- A part of a scan, from one phase to another. -/
abbrev BalanceTriple (balances : String → Nat → Nat) {α : Type} (i : BalancePhase) (p : Scan α)
    (j : α → BalancePhase) (k : BalancePhase) : Prop :=
  Triple (balance_permitted balances) (BalanceCarried balances) (balance_assn balances i) p
    (fun a => balance_assn balances (j a)) fun _ => balance_assn balances k

theorem silent_balance_phase {α : Type} {p : Scan α} (hp : p.Only Silent) :
    BalanceTriple balances i p (fun _ => i) i := by
  refine .of_only hp (fun op hop s _ => silent_balance_permitted hop) fun op hop s hs r t ht => ?_
  exact ⟨hs.1.carried (silent_balance_permitted hop) ht, known_of_silent hop ht hs.2⟩

theorem number_phase (address : String) :
    BalanceTriple balances (.scanning address) eth_block_number (.numbered address)
      (.scanning address) := by
  refine .bind_perform (fun _ _ => trivial) fun s hs r t ht => ?_
  cases ht with
  | failed error => exact hs
  | block_number hvalue =>
    refine ⟨balance_assn balances (.numbered address s.height), ⟨⟨hs.1.snapshots, hs.1.changes⟩,
      hs.2, s.height, rfl, le_rfl, rfl⟩, .lift ?_ ?_⟩
    · rintro block_number hparsed u hu
      obtain rfl := Except.ok.inj (hvalue.symm.trans hparsed)
      exact hu
    · exact fun _ _ u hu => ⟨hu.1, hu.2.1⟩

theorem change_event_fields {asset : Asset} {previous current : BalanceSnapshot}
    {provider : Provider} {draft : AddressEventDraft}
    (h : Evm.evm_balance_change_event context asset previous current provider = .ok draft) :
    draft.block_number = current.block_number ∧
      draft.balance_after_raw = some current.balance_raw := by
  unfold Evm.evm_balance_change_event at h
  cases hprevious : Evm.parse_decimal_bigint previous.balance_raw with
  | error e =>
    rw [hprevious] at h
    exact nomatch h
  | ok previous_raw =>
    cases hcurrent : Evm.parse_decimal_bigint current.balance_raw with
    | error e =>
      rw [hprevious, hcurrent] at h
      exact nomatch h
    | ok current_raw =>
      rw [hprevious, hcurrent] at h
      obtain rfl := Except.ok.inj h
      exact ⟨rfl, rfl⟩

/-- A database statement between the reading of the balance and the end of the scan. -/
theorem read_kept {address : String} {block_number : Int} {balance_raw : String} {q : Query}
    {r : AppResult q.Answer}
    (hs : (balance_assn balances (.read address block_number balance_raw)).holds s)
    (h : BalanceCarried balances s (.db q) r t) (hq : balance_permitted balances s (.db q)) :
    (balance_assn balances (.read address block_number balance_raw)).holds t :=
  ⟨hs.1.carried hq h, known_of_db h hs.2⟩

theorem read_scanning {address : String} {block_number : Int} {balance_raw : String}
    (hs : (balance_assn balances (.read address block_number balance_raw)).holds s) :
    (balance_assn balances (.scanning address)).holds s :=
  ⟨hs.1, hs.2.1⟩

/-- The event is of the snapshot that was stored. -/
theorem draft_permitted {address balance_raw : String} {block_number : Int} {asset : Asset}
    {previous current : BalanceSnapshot} {provider : Provider} {draft : AddressEventDraft}
    (hs : (balance_assn balances (.read address block_number balance_raw)).holds s)
    (hblock : current.block_number = some block_number) (hraw : current.balance_raw = balance_raw)
    (hdraft : Evm.evm_balance_change_event context asset previous current provider = .ok draft) :
    balance_permitted balances s (.db (.insert_event_and_outbox_if_not_exists draft)) := by
  obtain ⟨hnumber, hafter⟩ := change_event_fields hdraft
  intro _
  rw [hnumber, hafter, hblock, hraw]
  exact hs.2.2

theorem snapshot_phase (asset : Asset) (provider : Provider) (block_number : Int) :
    BalanceTriple balances (.numbered context.address block_number)
      (scan_evm_native_balance_with_context context asset provider block_number)
      (fun _ => .scanning context.address) (.scanning context.address) := by
  refine .bind_perform (fun _ _ => trivial) fun s hs r t ht => ?_
  cases ht with
  | failed error => exact ⟨hs.1, hs.2.1⟩
  | @balance _ hex hbalance =>
    obtain ⟨hstored, haddress, n, hnumbered, hle, rfl⟩ := hs
    have hread : ReadLater balances { s.reads with read := some s.height } (some (n : Int))
        (some (toString (balances context.address s.height))) :=
      .of_reached ⟨n, s.height, hnumbered, rfl, hle, rfl, by rw [← haddress]⟩
    refine ⟨balance_assn balances (.read context.address n
      (toString (balances context.address s.height))), ⟨⟨hstored.snapshots, hstored.changes⟩,
        haddress, hread⟩, ?_⟩
    refine .bind_lift (fun balance_raw hraw => ?_) fun _ _ u hu => read_scanning hu
    obtain rfl := Except.ok.inj (hbalance.symm.trans hraw)
    refine .bind_lift (fun balance_decimal _ => ?_) fun _ _ u hu => read_scanning hu
    refine .bind_perform (fun u hu => hu.2.2) fun u hu r v hv => ?_
    have hkept := read_kept hu hv hu.2.2
    cases r with
    | error e => exact read_scanning hkept
    | ok current =>
      have hcurrent : current.block_number = some (n : Int) ∧
          current.balance_raw = toString (balances context.address s.height) := by
        cases hv with
        | db hfate =>
          obtain ⟨hanswer, _⟩ := hfate.answer
          obtain rfl := Except.ok.inj hanswer
          exact ⟨rfl, rfl⟩
      refine ⟨_, hkept, .bind_perform (fun _ _ => trivial) fun w hw r x hx => ?_⟩
      have hkept := read_kept hw hx trivial
      cases r with
      | error e => exact read_scanning hkept
      | ok previous =>
        refine ⟨_, hkept, ?_⟩
        cases previous with
        | none => exact .done fun _ hy => read_scanning hy
        | some previous =>
          dsimp only
          split
          · refine .bind_lift (fun draft hdraft => ?_) fun _ _ y hy => read_scanning hy
            refine .bind_perform (fun y hy => draft_permitted hy hcurrent.1 hcurrent.2 hdraft)
              fun y hy r z hz => ?_
            have hkept := read_kept hy hz (draft_permitted hy hcurrent.1 hcurrent.2 hdraft)
            cases r with
            | error e => exact read_scanning hkept
            | ok event => exact ⟨_, hkept, .done fun _ h => read_scanning h⟩
          · exact .done fun _ hy => read_scanning hy

theorem evm_balance_phase (context : ScanAddressContext) (provider : Provider) :
    BalanceTriple balances (.scanning context.address)
      (scan_evm_address_with_provider context provider) (fun _ => .scanning context.address)
      (.scanning context.address) := by
  refine .bind_lift (fun _ _ => ?_) fun _ _ _ h => h
  refine .bind SameReads.refl (silent_balance_phase (Only.perform trivial)) fun chain => ?_
  refine .bind SameReads.refl (silent_balance_phase (Only.perform trivial)) fun native_asset => ?_
  refine .bind SameReads.refl (silent_balance_phase (Only.perform trivial)) fun selected_assets => ?_
  refine .bind_lift (fun _ _ => ?_) fun _ _ _ h => h
  refine .bind SameReads.refl (number_phase context.address) fun latest_block => ?_
  refine .bind SameReads.refl
    (Q := fun _ => balance_assn balances (.scanning context.address)) ?_ fun events => ?_
  · split
    · exact snapshot_phase native_asset provider latest_block
    · exact .done fun _ h => ⟨h.1, h.2.1⟩
  · refine .bind SameReads.refl (silent_balance_phase (erc20_transfers_silent _ _ _)) fun _ => ?_
    exact .done fun _ h => h

/-- Whatever the chain and others do meanwhile, a stored balance is the one at a height that the chain
had when it was read, at or above the stored block number, and the one at that block exactly if the
balance was the same at both. So is that of every change. -/
theorem stored_balances {db : Db} {p : Scan (List AddressEvent)}
    (hrun : Relation.ReflTransGen (BalanceStep balances) (balance_start db) (s, p)) :
    BalancesRead balances s := by
  have hstart : Safe (balance_permitted balances) (BalanceCarried balances) SameReads
      (BalancesRead balances) (fun _ _ => True) (balance_start db).2 (balance_start db).1 := by
    intro t ht
    refine ⟨ht.stored ⟨?_, ?_⟩, trivial⟩
    · exact fun _ h => absurd h List.not_mem_nil
    · exact fun _ h => absurd h List.not_mem_nil
  refine Turn.invariant SameReads.refl SameReads.trans (fun _ _ h => SameReads.others h) ?_ hrun hstart
  rintro s p t hs ⟨context, provider, height⟩
  let launched : BalanceWorld :=
    { s with
      height := height
      reads := ⟨context.address, none, none⟩ }
  have hlaunched : (balance_assn balances (.scanning context.address)).holds launched :=
    ⟨⟨hs.snapshots, hs.changes⟩, rfl⟩
  exact ((evm_balance_phase context provider).safe launched hlaunched).mono fun _ _ _ _ => trivial

end Run

/-! ### A block between the calls -/

/-- The address has as much as there are blocks. -/
def counted (_ : String) (n : Nat) : Nat :=
  n

/-- The chain grows from one block to two before the balance is read. -/
def BalanceWorld.growing (s : BalanceWorld) : (op : Statement) → AppResult op.Answer × BalanceWorld
  | .db q => s.query q
  | .remote .eth_block_number =>
    if s.height = 1 then
      (.ok "0x1", { s with reads := { s.reads with numbered := some s.height } })
    else (.error (.Config "eth_blockNumber"), s)
  | .remote (.eth_get_balance _) =>
    if s.height = 1 then
      (.ok "0x2", { s with
        height := 2
        reads := { s.reads with read := some 2 } })
    else (.error (.Config "eth_getBalance"), s)
  | .remote _ => (.error (.Config "not called"), s)

theorem growing_carried (s : BalanceWorld) (op : Statement) :
    ∃ u, (u = s ∨ BalanceOthers s u) ∧
      BalanceCarried counted u op (s.growing op).1 (s.growing op).2 := by
  cases op with
  | db q => exact ⟨s, .inl rfl, .db .answered⟩
  | remote call =>
    cases call with
    | eth_block_number =>
      by_cases hheight : s.height = 1
      · refine ⟨s, .inl rfl, ?_⟩
        simp only [BalanceWorld.growing, if_pos hheight]
        have hvalue : Evm.parse_hex_quantity_to_i64 "0x1" = .ok (s.height : Int) := by
          rw [hheight]
          decide +kernel
        exact .block_number hvalue
      · refine ⟨s, .inl rfl, ?_⟩
        simp only [BalanceWorld.growing, if_neg hheight]
        exact .failed _
    | eth_get_balance address =>
      by_cases hheight : s.height = 1
      · refine ⟨{ s with height := 2 }, .inr (.grow (by omega)), ?_⟩
        simp only [BalanceWorld.growing, if_pos hheight]
        have hhex : Evm.parse_hex_u256_to_decimal_string "0x2" = .ok (toString 2) := by
          decide +kernel
        exact .balance hhex
      · refine ⟨s, .inl rfl, ?_⟩
        simp only [BalanceWorld.growing, if_neg hheight]
        exact .failed _
    | _ => exact ⟨s, .inl rfl, .failed _⟩

def ether_endpoint : Provider :=
  { id := 5, chain_id := 3, name := "node", base_url := "https://node.example", timeout_ms := 5000 }

/-- The address has been seen with a balance of zero before. -/
def ether_watched : Db :=
  { no_balances with
    chains := [{ id := 3, key := "ethereum", chain_type := "evm", default_confirmations := 12 }]
    balance_snapshots := [
      { toCreateBalanceSnapshotRequest :=
          balance_snapshot_request watched_balance eth ether_endpoint (some 0) "0" "0"
        id := 0
        observed_at := 0 }]
    clock := 1 }

def ether_launched : BalanceWorld :=
  { (balance_start ether_watched).1 with
    height := 1
    reads := ⟨watched_balance.address, none, none⟩ }

def after_growth : BalanceWorld :=
  (Prog.eval BalanceWorld.growing (scan_evm_address_with_provider watched_balance ether_endpoint)
    ether_launched).2

theorem growth_run : ∃ p,
    Relation.ReflTransGen (BalanceStep counted) (balance_start ether_watched) (after_growth, p) := by
  obtain ⟨p, hrun⟩ := @Prog.Turn.of_eval _ _ _ _ _ (BalanceCarried counted) BalanceOthers
    BalanceLaunch BalanceWorld.growing growing_carried
    (scan_evm_address_with_provider watched_balance ether_endpoint) ether_launched
  exact ⟨p, .head (.launch (.scan watched_balance ether_endpoint 1)) hrun⟩

/-- A snapshot and a change are stored. -/
theorem stored_balances_growth :
    after_growth.snapshots ≠ [] ∧ after_growth.changes ≠ [] ∧ BalancesRead counted after_growth := by
  obtain ⟨p, hrun⟩ := growth_run
  have hsnapshots : after_growth.snapshots.isEmpty = false := by decide +kernel
  have hchanges : after_growth.changes.isEmpty = false := by decide +kernel
  refine ⟨fun h => ?_, fun h => ?_, stored_balances hrun⟩
  · rw [h] at hsnapshots
    exact nomatch hsnapshots
  · rw [h] at hchanges
    exact nomatch hchanges

theorem not_counted {address : String} {block_number : Int} {amount : String}
    (h : amount ≠ toString block_number) :
    ¬ BalanceAt counted address (some block_number) (some amount) := by
  rintro ⟨n, hblock, hamount⟩
  obtain rfl := Option.some.inj hblock
  exact h (Option.some.inj hamount)

/-- Both say block 1 and have the balance of block 2. -/
theorem later_balance_stored : ∃ (s : BalanceWorld) (p : Scan (List AddressEvent)),
    Relation.ReflTransGen (BalanceStep counted) (balance_start ether_watched) (s, p) ∧
    (∃ entry ∈ s.snapshots, ¬ BalanceAt counted entry.1.address entry.2.block_number
      (some entry.2.balance_raw)) ∧
    ∃ entry ∈ s.changes, ¬ BalanceAt counted entry.1.address entry.2.block_number
      entry.2.balance_after_raw := by
  obtain ⟨p, hrun⟩ := growth_run
  have hsnapshot : ∃ entry ∈ after_growth.snapshots,
      entry.2.block_number = some 1 ∧ entry.2.balance_raw = "2" := by decide +kernel
  have hchange : ∃ entry ∈ after_growth.changes,
      entry.2.block_number = some 1 ∧ entry.2.balance_after_raw = some "2" := by decide +kernel
  obtain ⟨snapshot, hsnapshot, hblock, hraw⟩ := hsnapshot
  obtain ⟨change, hchange, hnumber, hafter⟩ := hchange
  refine ⟨after_growth, p, hrun, ⟨snapshot, hsnapshot, ?_⟩, ⟨change, hchange, ?_⟩⟩
  · rw [hblock, hraw]
    exact not_counted (by decide)
  · rw [hnumber, hafter]
    exact not_counted (by decide)

end CoinListener.Worker
