import DoubleEntry.Signed64
import DoubleEntry.Binary64
import DoubleEntry.Text.Blank
import DoubleEntry.Text.Alphanumeric
import DoubleEntry.Text.Pattern
import DoubleEntry.Text.Printable
import DoubleEntry.Text.Styled
import DoubleEntry.Money
import DoubleEntry.Currency
import DoubleEntry.Abort
import DoubleEntry.Page
import DoubleEntry.Account
import DoubleEntry.Entry
import DoubleEntry.Transfer
import DoubleEntry.Event
import DoubleEntry.Posting
import DoubleEntry.Integrity
import DoubleEntry.Error
import DoubleEntry.Datum
import DoubleEntry.Config
import DoubleEntry.Store.Basic
import DoubleEntry.Store.Listing
import DoubleEntry.Store.Tables
import DoubleEntry.Store.Pool
import DoubleEntry.Store.Memory
import DoubleEntry.Service
import DoubleEntry.Store.Snapshot
import DoubleEntry.Export
import DoubleEntry.Directory
import DoubleEntry.Script.Request
import DoubleEntry.Script.Reply
import DoubleEntry.Script.Call
import DoubleEntry.Script.Memory
import DoubleEntry.Cli.Similar
import DoubleEntry.Cli.Trace
import DoubleEntry.Cli.Spec
import DoubleEntry.Cli.Usage
import DoubleEntry.Cli.Numeral
import DoubleEntry.Cli.Refusal
import DoubleEntry.Cli.Invocation
import DoubleEntry.Cli.Parse
import DoubleEntry.Cli.Render
import DoubleEntry.Cli.Run
import DoubleEntry.Script.Masking
import DoubleEntry.Script.Session
import DoubleEntry.Store.LedgerFile
import DoubleEntry.Main
import DoubleEntry.Proofs.PoolCalls
import DoubleEntry.Proofs.Tables
import DoubleEntry.Proofs.Transfer
import DoubleEntry.Proofs.Atomicity
import DoubleEntry.Proofs.Runs
import DoubleEntry.Proofs.Report
import DoubleEntry.Proofs.Ledger
import DoubleEntry.Proofs.Schema
import DoubleEntry.Proofs.Conservation
import DoubleEntry.Proofs.Authority
import DoubleEntry.Proofs.Unobserved
import DoubleEntry.Proofs.Transactions
import DoubleEntry.Proofs.Serving
import DoubleEntry.Proofs.MemoryCalls
import DoubleEntry.Proofs.Listing
import DoubleEntry.Proofs.Renaming
import DoubleEntry.Proofs.Refinement
import DoubleEntry.Proofs.AmountGrammar
import DoubleEntry.Proofs.WrittenAmounts
import DoubleEntry.Proofs.Numbering
import DoubleEntry.Proofs.MemoryOrder
import DoubleEntry.Proofs.Rollback
import DoubleEntry.Proofs.EntryCheck
import DoubleEntry.Proofs.Deletion
import DoubleEntry.Proofs.Total
import DoubleEntry.Proofs.CallProtocol
