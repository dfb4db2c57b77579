import Reconcile.Document.Keyed
import Reconcile.Document.Basic
import Reconcile.Number.Binary64
import Reconcile.Number.Shortest
import Reconcile.Document.Json
import Reconcile.Document.JsonReader
import Reconcile.Text.Unprintable
import Reconcile.Text.Extender
import Reconcile.Document.Path
import Reconcile.Diagnostic
import Reconcile.Document.Inspect
import Reconcile.Document.Error
import Reconcile.Document.Header
import Reconcile.Agent.Queue
import Reconcile.Agent.Accessor
import Reconcile.Request.Basic
import Reconcile.Request.Navigate
import Reconcile.Request.Respond
import Reconcile.Secrets
import Reconcile.Context
import Reconcile.Tree.Basic
import Reconcile.Tree.Error
import Reconcile.Tree.Build
import Reconcile.Tree.Ensure
import Reconcile.Tree.Parallel
import Reconcile.Tree.Rebuild
import Reconcile.Config.Basic
import Reconcile.Cycle
import Reconcile.Script.Basic
import Reconcile.Script.Adapter
import Reconcile.Request.Run
import Reconcile.Request.Cycle
import Reconcile.Request.Secrets
import Reconcile.Request.Agents
import Reconcile.Request.Context
import Reconcile.Toml.Writer
import Reconcile.Toml.Basic
import Reconcile.Toml.Lexeme
import Reconcile.Toml.Reader
import Reconcile.Toml.Report
import Reconcile.Config.Toml
import Reconcile.Yaml.Basic
import Reconcile.Yaml.Token
import Reconcile.Yaml.Scanner
import Reconcile.Yaml.Parser
import Reconcile.Yaml.Scalar
import Reconcile.Yaml.Load
import Reconcile.Yaml.Emitter
import Reconcile.FileStore
import Reconcile.Config.File
import Reconcile.Request.ConfigFile
import Reconcile.Proofs.Position
import Reconcile.Proofs.Placement
import Reconcile.Proofs.RebuildRun
import Reconcile.Proofs.RebuildFrame
import Reconcile.Proofs.RebuildEntry
import Reconcile.Proofs.RebuildWrite
import Reconcile.Proofs.AgentRecords
import Reconcile.Proofs.AgentChanges
import Reconcile.Proofs.Commute
import Reconcile.Proofs.SiblingOrder
import Reconcile.Proofs.Convergence
import Reconcile.Proofs.ParallelConvergence
import Reconcile.Proofs.Normal
import Reconcile.Proofs.RebuildAgain
import Reconcile.Proofs.BuildAgain
import Reconcile.Proofs.RebuildLookups
import Reconcile.Proofs.CycleAgain
import Reconcile.Proofs.CycleEnds
import Reconcile.Proofs.Mailbox
import Reconcile.Proofs.Preorder
import Reconcile.Proofs.BuiltQueues
import Reconcile.Proofs.FailedWrite
import Reconcile.Proofs.NavigateAppend
import Reconcile.Proofs.Materialize
import Reconcile.Proofs.RepeatedDeclarations
import Reconcile.Proofs.BranchView
import Reconcile.Proofs.RewriteBranch
import Reconcile.Proofs.StrictWrite
import Reconcile.Proofs.Traversal
