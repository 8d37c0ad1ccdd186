import SprintGateway.Basic
import SprintGateway.Url
import SprintGateway.Http
import SprintGateway.Jose
import SprintGateway.Auth
import SprintGateway.Proxy
import SprintGateway.Store
import SprintGateway.RateLimit
import SprintGateway.Window
import SprintGateway.Isolation
import SprintGateway.Pipeline
import SprintGateway.Ledger
import SprintGateway.Lockout
import SprintGateway.Sequential
import SprintGateway.Relay
import SprintGateway.Exporter
