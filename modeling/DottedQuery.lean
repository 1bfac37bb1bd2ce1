import DottedQuery.Main
import DottedQuery.Store.Creation
import DottedQuery.Proofs.Catalog.Coverage
import DottedQuery.Proofs.Catalog.ForeignKeys
import DottedQuery.Proofs.Catalog.Rearrangement
import DottedQuery.Proofs.Catalog.Shadowing
import DottedQuery.Proofs.Plan.Faults
import DottedQuery.Proofs.Plan.PrefixTree
import DottedQuery.Proofs.Plan.Resolution
import DottedQuery.Proofs.Result.Agreement
import DottedQuery.Proofs.Spec.Written
import DottedQuery.Proofs.Sql.Scope
import DottedQuery.Proofs.Sql.Placeholders
import DottedQuery.Proofs.Sql.Operands
import DottedQuery.Proofs.Sql.Typing
import DottedQuery.Proofs.Store.KeyAgreement
import DottedQuery.Proofs.Store.Narrowing
import DottedQuery.Proofs.Store.Partition
import DottedQuery.Proofs.Store.Reordering
import DottedQuery.Proofs.Spec.PathGrammar
import DottedQuery.Proofs.Store.TruthValues
import DottedQuery.Proofs.Spec.Checking
import DottedQuery.Proofs.Store.Arrangement
import DottedQuery.Proofs.Store.Binding
import DottedQuery.Proofs.Document.Integers
import DottedQuery.Proofs.Settings.Variables
import DottedQuery.Proofs.CommandLine.Listing
import DottedQuery.Proofs.Naming.Labels
import DottedQuery.Proofs.Json.RoundTrip
import DottedQuery.Proofs.CommandLine.Precedence
import DottedQuery.Proofs.Plan.Upkeep
import DottedQuery.Proofs.Decimal.Fractions
