import TypedQuery.Clause
import TypedQuery.Document
import TypedQuery.Registry.Query
import TypedQuery.Settings.Environment
import TypedQuery.Value.Json
import TypedQuery.Proofs.Registry.Index
import TypedQuery.Proofs.Registry.Delivery
import TypedQuery.Proofs.Registry.Sound
import TypedQuery.Proofs.Registry.Origin
import TypedQuery.Proofs.Registry.Getters
import TypedQuery.Proofs.Query.Grammar
import TypedQuery.Proofs.Query.Outcome
import TypedQuery.Proofs.Rule.Bounds
import TypedQuery.Proofs.Rule.Characters
import TypedQuery.Proofs.Rule.Reread
import TypedQuery.Proofs.Rule.Integers
import TypedQuery.Proofs.Document.Reload
import TypedQuery.Proofs.Document.Keys
import TypedQuery.Proofs.Document.Text
import TypedQuery.Proofs.Clause.Table
import TypedQuery.Proofs.Clause.Separation
import TypedQuery.Proofs.Clause.Reread
import TypedQuery.Proofs.Clause.SortTokens
import TypedQuery.Proofs.Query.Order
import TypedQuery.Proofs.Registry.Independence
import TypedQuery.Proofs.Registry.Typed
import TypedQuery.Proofs.Registry.Fallback
import TypedQuery.Proofs.Registry.Count
import TypedQuery.Proofs.Rule.Lists
import TypedQuery.Proofs.Rule.Words
import TypedQuery.Proofs.Settings.Overlay
import TypedQuery.Proofs.Settings.Variables
import TypedQuery.Proofs.Value.Written
