import CloudOps.Bucket.Script
import CloudOps.Main
import CloudOps.Memory.Buckets
import CloudOps.Memory.Databases
import CloudOps.Memory.Tables
import CloudOps.Proofs.Bucket.Count
import CloudOps.Proofs.Bucket.Listing
import CloudOps.Proofs.Bucket.Removal
import CloudOps.Proofs.Bucket.Requests
import CloudOps.Proofs.Bucket.Retry
import CloudOps.Proofs.CommandLine.PolicyChoice
import CloudOps.Proofs.CommandLine.RoundTrip
import CloudOps.Proofs.Failures
import CloudOps.Proofs.Json.RoundTrip
import CloudOps.Proofs.Json.Spelling
import CloudOps.Proofs.Memory.Cursor
import CloudOps.Proofs.Memory.History
import CloudOps.Proofs.Memory.Interruption
import CloudOps.Proofs.Memory.Isolation
import CloudOps.Proofs.Memory.LifeCycle
import CloudOps.Proofs.Memory.Lookups
import CloudOps.Proofs.Memory.Repetition
import CloudOps.Proofs.Memory.Walks
import CloudOps.Proofs.Movie.Format
import CloudOps.Proofs.Policy
import CloudOps.Proofs.Service.BucketDates
import CloudOps.Proofs.Service.Failures
import CloudOps.Proofs.Service.Paging
import CloudOps.Proofs.Service.Waits
import CloudOps.Proofs.Service.Walks
import CloudOps.Proofs.Settings.Decoding
import CloudOps.Proofs.Settings.Region
import CloudOps.Proofs.Settings.Resolution
import CloudOps.Settings.Test
